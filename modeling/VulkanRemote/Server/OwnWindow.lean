import VulkanRemote.Lib.Held
import VulkanRemote.Lib.Run

/-! The window that the server opens for a client: what the callbacks of its seat, pointer and keyboard
record, and which keys and buttons it takes to be pressed. -/

namespace VkRemote.Server

open Lib

inductive InputType
  | motion
  | button
  | axis
  | key
  | focus
  deriving DecidableEq

/-- The arguments of `record_input`; the integers are bit patterns. -/
structure InputEvent where
  type : InputType
  a : UInt32 := 0
  b : UInt32 := 0
  deriving DecidableEq

/-- `recorded` is everything that `record_input` was called with. -/
structure OwnWindow where
  seatName : UInt32 := 0
  seat : Bool := false
  pointer : Bool := false
  keyboard : Bool := false
  pointerInside : Bool := false
  keyboardFocused : Bool := false
  pressedPointerButtons : UInt32 := 0
  pressedKeys : Finset UInt32 := ∅
  repeatRate : ℕ := 0
  repeatingKey : UInt32 := 0
  recorded : List InputEvent := []
  deriving DecidableEq

/-- What a callback does between two points at which another thread may come in: a call of `record_input`,
a section under `repeat_mutex_`, or a change of what only the thread of the callbacks uses. -/
inductive Op
  | record (e : InputEvent)
  | insertKey (key : UInt32)
  | eraseKey (key : UInt32)
  | clearKeys
  | setFocused (focused : Bool)
  | setInside (inside : Bool)
  | setButtons (mask : UInt32)
  | setSeat (name : UInt32) (bound : Bool)
  | setPointer (bound : Bool)
  | setKeyboard (bound : Bool)
  | repeatKey (key state : UInt32) (repeats : Bool)
  | stopRepeat
  | setRate (rate : ℕ)
  deriving DecidableEq

namespace OwnWindow

def apply (w : OwnWindow) : Op → OwnWindow
  | .record e => { w with recorded := w.recorded ++ [e] }
  | .insertKey key => { w with pressedKeys := insert key w.pressedKeys }
  | .eraseKey key => { w with pressedKeys := w.pressedKeys.erase key }
  | .clearKeys => { w with pressedKeys := ∅ }
  | .setFocused focused => { w with keyboardFocused := focused }
  | .setInside inside => { w with pointerInside := inside }
  | .setButtons mask => { w with pressedPointerButtons := mask }
  | .setSeat name bound => { w with seatName := name, seat := bound }
  | .setPointer bound => { w with pointer := bound }
  | .setKeyboard bound => { w with keyboard := bound }
  | .repeatKey key state repeats =>
    if state ≠ 0 ∧ repeats then { w with repeatingKey := key }
    else if state = 0 ∧ w.repeatingKey = key then { w with repeatingKey := 0 }
    else w
  | .stopRepeat => { w with repeatingKey := 0 }
  | .setRate rate => { w with repeatRate := rate }

def run (w : OwnWindow) (ops : List Op) : OwnWindow := ops.foldl apply w

end OwnWindow

/-- The calls of the listeners. `own` says whether the surface is the window's, `repeats` what the keymap of
the moment says about the key. A callback that releases every key goes through them in the `order` of the
set. What the wheel records is an axis and an amount each time, and no key and no button. -/
inductive Callback
  | registryGlobal (name : UInt32)
  | registryGlobalRemove (name : UInt32) (order : List UInt32)
  | seatCapabilities (capabilities : UInt32) (order : List UInt32)
  | pointerEnter (own : Bool) (x y : Int32)
  | pointerLeave
  | pointerMotion (x y : Int32)
  | pointerButton (button state : UInt32)
  | pointerFrame (detents : List (UInt32 × UInt32))
  | keyboardEnter (own : Bool) (keys : List UInt32)
  | keyboardLeave (order : List UInt32)
  | keyboardKey (key state : UInt32) (repeats : Bool)
  | keyboardRepeatInfo (rate : ℤ)
  deriving DecidableEq

/-- `WL_SEAT_CAPABILITY_POINTER`. -/
def hasPointer (capabilities : UInt32) : Bool := capabilities &&& 1 ≠ 0

/-- `WL_SEAT_CAPABILITY_KEYBOARD`. -/
def hasKeyboard (capabilities : UInt32) : Bool := capabilities &&& 2 ≠ 0

/-- `mask` of `pointer_button`. -/
def buttonMask (button : UInt32) : UInt32 :=
  if button = 0x110 then 1 else if button = 0x111 then 2 else if button = 0x112 then 4
  else if button = 0x113 then 8 else if button = 0x114 then 16 else 0

/-- The buttons that the loops over the bits release. -/
def pressedButtons (mask : UInt32) : List UInt32 :=
  ((List.range 5).filter fun bit => mask &&& (1 <<< UInt32.ofNat bit) ≠ 0).map fun bit =>
    0x110 + UInt32.ofNat bit

/-- Position in pixels. -/
def pixel (v : Int32) : UInt32 := (v >>> 8).toUInt32

def keyEvent (key state : UInt32) : InputEvent := ⟨.key, key, state⟩

def buttonEvent (button state : UInt32) : InputEvent := ⟨.button, button, state⟩

def focusEvent (focused : Bool) : InputEvent := ⟨.focus, if focused then 1 else 0, 0⟩

def motionEvent (x y : Int32) : InputEvent := ⟨.motion, pixel x, pixel y⟩

/-- The keyboard goes. -/
def releaseKeys (order : List UInt32) : List Op :=
  order.map (fun key => .record (keyEvent key 0)) ++
    [.clearKeys, .stopRepeat, .setFocused false, .record (focusEvent false)]

/-- The pointer goes. -/
def releaseButtons (mask : UInt32) : List Op :=
  (pressedButtons mask).map (fun button => .record (buttonEvent button 0)) ++ [.setButtons 0, .setInside false]

/-- The keys that are held already when the keyboard comes. -/
def enterKeys : Finset UInt32 → List UInt32 → List Op
  | _, [] => []
  | pressed, key :: keys =>
    if key ∈ pressed then enterKeys pressed keys
    else .insertKey key :: .record (keyEvent key 1) :: enterKeys (insert key pressed) keys

namespace OwnWindow

def loseKeyboard (w : OwnWindow) (order : List UInt32) : List Op :=
  if w.keyboard then releaseKeys order ++ [.setKeyboard false] else []

def losePointer (w : OwnWindow) : List Op :=
  if w.pointer then releaseButtons w.pressedPointerButtons ++ [.setPointer false] else []

/-- The sections of a callback, from the state that it finds. -/
def ops (w : OwnWindow) : Callback → List Op
  | .registryGlobal name => if w.seat then [] else [.setSeat name true]
  | .registryGlobalRemove name order =>
    if name ≠ w.seatName then []
    else w.loseKeyboard order ++ (w.losePointer ++ [.setSeat 0 false])
  | .seatCapabilities capabilities order =>
    (if hasPointer capabilities then if w.pointer then [] else [.setPointer true] else w.losePointer) ++
      (if hasKeyboard capabilities then if w.keyboard then [] else [.setKeyboard true] else w.loseKeyboard order)
  | .pointerEnter own x y => .setInside own :: if own then [.record (motionEvent x y)] else []
  | .pointerLeave => releaseButtons w.pressedPointerButtons
  | .pointerMotion x y => if w.pointerInside then [.record (motionEvent x y)] else []
  | .pointerButton button state =>
    if w.pointerInside then
      [.setButtons (if state ≠ 0 then w.pressedPointerButtons ||| buttonMask button
        else w.pressedPointerButtons &&& ~~~buttonMask button), .record (buttonEvent button state)]
    else []
  | .pointerFrame detents => detents.map fun d => .record ⟨.axis, d.1, d.2⟩
  | .keyboardEnter own keys =>
    .setFocused own :: .record (focusEvent own) :: if own then enterKeys w.pressedKeys keys else []
  | .keyboardLeave order => releaseKeys order
  | .keyboardKey key state repeats =>
    if w.keyboardFocused then
      [if state ≠ 0 then .insertKey key else .eraseKey key, .record (keyEvent key state),
        .repeatKey key state repeats]
    else []
  | .keyboardRepeatInfo rate => [.setRate rate.toNat]

end OwnWindow

/-- The order in which a callback goes through the pressed keys. -/
def Callback.releaseOrder : Callback → Option (List UInt32)
  | .registryGlobalRemove _ order => some order
  | .seatCapabilities _ order => some order
  | .keyboardLeave order => some order
  | _ => none

namespace OwnWindow

/-- The set lists each of its keys once, in an order of its own. -/
def Lists (w : OwnWindow) (c : Callback) : Prop :=
  ∀ order ∈ c.releaseOrder, order.Nodup ∧ order.toFinset = w.pressedKeys

instance (w : OwnWindow) (c : Callback) : Decidable (w.Lists c) :=
  inferInstanceAs (Decidable (∀ order ∈ c.releaseOrder, _))

/-- A whole callback. -/
def step (w : OwnWindow) (c : Callback) : Option OwnWindow :=
  if w.Lists c then some (w.run (w.ops c)) else none

end OwnWindow

/-! ### What was recorded, and what is tracked -/

/-- The presses and releases among the events of a type; a value other than zero is a press. -/
def edges (type : InputType) (es : List InputEvent) : List (Edge UInt32) :=
  es.filterMap fun e => if e.type = type then some ⟨e.a, e.b ≠ 0⟩ else none

/-- The keys or buttons that the recorded events leave pressed. -/
def heldIn (type : InputType) (es : List InputEvent) : Finset UInt32 := held (edges type es)

section

variable {type : InputType} {es : List InputEvent} {e : InputEvent}

theorem heldIn_append (type : InputType) (es more : List InputEvent) :
    heldIn type (es ++ more) = (edges type more).foldl hold (heldIn type es) := by
  rw [heldIn, edges, List.filterMap_append, held_append]
  rfl

theorem heldIn_concat_of_ne (h : e.type ≠ type) : heldIn type (es ++ [e]) = heldIn type es := by
  simp [heldIn_append, edges, h]

theorem heldIn_concat (type : InputType) (es : List InputEvent) (a b : UInt32) :
    heldIn type (es ++ [⟨type, a, b⟩]) = hold (heldIn type es) ⟨a, b ≠ 0⟩ := by
  simp [heldIn_append, edges]

theorem edges_of_ne {more : List InputEvent} (h : ∀ e ∈ more, e.type ≠ type) : edges type more = [] := by
  refine List.filterMap_eq_nil_iff.2 fun e he => ?_
  rw [if_neg (h e he)]

theorem heldIn_append_of_ne {more : List InputEvent} (h : ∀ e ∈ more, e.type ≠ type) :
    heldIn type (es ++ more) = heldIn type es := by
  rw [heldIn_append, edges_of_ne h, List.foldl_nil]

/-- Everything in the list is released. -/
theorem heldIn_append_releases (type : InputType) (es : List InputEvent) (l : List UInt32) :
    heldIn type (es ++ l.map fun a => ⟨type, a, 0⟩) = heldIn type es \ l.toFinset := by
  have hedges : edges type (l.map fun a => (⟨type, a, 0⟩ : InputEvent)) =
      l.map fun a => ⟨a, false⟩ := by
    rw [edges, List.filterMap_map]
    simp
  rw [heldIn_append, hedges, foldl_hold_up]

end

section

variable {mask button other : UInt32}

theorem or_and (m n k : UInt32) : (m ||| n) &&& k = (m &&& k) ||| (n &&& k) := by
  apply UInt32.toBitVec_inj.1
  ext i
  simp [Bool.and_or_distrib_right]

theorem buttonMask_code : ∀ bit < 5, buttonMask (0x110 + UInt32.ofNat bit) = 1 <<< UInt32.ofNat bit := by
  decide

theorem code_of_buttonMask (h : buttonMask button ≠ 0) : ∃ bit < 5, button = 0x110 + UInt32.ofNat bit := by
  unfold buttonMask at h
  split_ifs at h with h₀ h₁ h₂ h₃ h₄
  · exact ⟨0, by decide, h₀⟩
  · exact ⟨1, by decide, h₁⟩
  · exact ⟨2, by decide, h₂⟩
  · exact ⟨3, by decide, h₃⟩
  · exact ⟨4, by decide, h₄⟩
  · exact absurd rfl h

theorem buttonMask_disjoint (h : button ≠ other) : buttonMask button &&& buttonMask other = 0 := by
  by_cases hbutton : buttonMask button = 0
  · rw [hbutton, UInt32.zero_and]
  · by_cases hother : buttonMask other = 0
    · rw [hother, UInt32.and_zero]
    · obtain ⟨i, hi, rfl⟩ := code_of_buttonMask hbutton
      obtain ⟨j, hj, rfl⟩ := code_of_buttonMask hother
      have hcodes : ∀ i < 5, ∀ j < 5, (0x110 : UInt32) + UInt32.ofNat i ≠ 0x110 + UInt32.ofNat j →
          buttonMask (0x110 + UInt32.ofNat i) &&& buttonMask (0x110 + UInt32.ofNat j) = 0 := by decide
      exact hcodes i hi j hj h

theorem pressedButtons_zero : pressedButtons 0 = [] := by decide

theorem mem_pressedButtons : button ∈ pressedButtons mask ↔ mask &&& buttonMask button ≠ 0 := by
  simp only [pressedButtons, List.mem_map, List.mem_filter, List.mem_range, decide_eq_true_eq]
  constructor
  · rintro ⟨bit, ⟨hbit, hmask⟩, rfl⟩
    rwa [buttonMask_code bit hbit]
  · intro h
    have hbutton : buttonMask button ≠ 0 := by
      intro hzero
      rw [hzero, UInt32.and_zero] at h
      exact h rfl
    obtain ⟨bit, hbit, rfl⟩ := code_of_buttonMask hbutton
    rw [buttonMask_code bit hbit] at h
    exact ⟨bit, ⟨hbit, h⟩, rfl⟩

/-- A press sets the bit of its button and no other. -/
theorem mem_pressedButtons_or (hbutton : buttonMask button ≠ 0) :
    other ∈ pressedButtons (mask ||| buttonMask button) ↔ other = button ∨ other ∈ pressedButtons mask := by
  rw [mem_pressedButtons, mem_pressedButtons, or_and]
  by_cases hother : other = button
  · subst hother
    have hself : ((mask &&& buttonMask other) ||| (buttonMask other &&& buttonMask other)) ≠ 0 := by
      rw [UInt32.and_self]
      intro hzero
      exact hbutton (UInt32.or_eq_zero_iff.1 hzero).2
    exact iff_of_true hself (.inl rfl)
  · rw [buttonMask_disjoint (Ne.symm hother), UInt32.or_zero]
    exact (or_iff_right hother).symm

theorem mem_pressedButtons_and :
    other ∈ pressedButtons (mask &&& ~~~buttonMask button) ↔ other ≠ button ∧ other ∈ pressedButtons mask := by
  rw [mem_pressedButtons, mem_pressedButtons, UInt32.and_assoc]
  by_cases hother : other = button
  · subst hother
    rw [UInt32.not_and_self, UInt32.and_zero]
    exact iff_of_false (fun h => h rfl) fun h => h.1 rfl
  · have hkept : ~~~buttonMask button &&& buttonMask other = buttonMask other := by
      calc
        ~~~buttonMask button &&& buttonMask other =
            (buttonMask button &&& buttonMask other) ||| (~~~buttonMask button &&& buttonMask other) := by
          rw [buttonMask_disjoint (Ne.symm hother), UInt32.zero_or]
        _ = (buttonMask button ||| ~~~buttonMask button) &&& buttonMask other := (or_and _ _ _).symm
        _ = buttonMask other := by rw [UInt32.or_not_self, UInt32.neg_one_and]
    rw [hkept]
    exact (and_iff_right hother).symm

end

/-! ### What the sections of a callback add up to -/

namespace OwnWindow

variable (w : OwnWindow)

@[simp] theorem run_nil : w.run [] = w := rfl

@[simp] theorem run_cons (op : Op) (ops : List Op) : w.run (op :: ops) = (w.apply op).run ops := rfl

@[simp] theorem run_append (ops more : List Op) : w.run (ops ++ more) = (w.run ops).run more :=
  List.foldl_append

theorem run_records (es : List InputEvent) :
    w.run (es.map Op.record) = { w with recorded := w.recorded ++ es } := by
  induction es generalizing w with
  | nil => simp
  | cons e es ih =>
    rw [List.map_cons, run_cons, ih, apply, List.append_assoc]
    rfl

/-- The keyboard is gone, and every key that was pressed is released. -/
theorem run_releaseKeys (order : List UInt32) : w.run (releaseKeys order) =
    { w with pressedKeys := ∅, repeatingKey := 0, keyboardFocused := false,
             recorded := w.recorded ++ (order.map fun key => keyEvent key 0) ++ [focusEvent false] } := by
  have hrecords : order.map (fun key => Op.record (keyEvent key 0)) =
      (order.map fun key => keyEvent key 0).map Op.record := by simp
  rw [releaseKeys, run_append, hrecords, run_records]
  rfl

theorem run_releaseButtons (mask : UInt32) : w.run (releaseButtons mask) =
    { w with pressedPointerButtons := 0, pointerInside := false,
             recorded := w.recorded ++ (pressedButtons mask).map fun button => buttonEvent button 0 } := by
  have hrecords : (pressedButtons mask).map (fun button => Op.record (buttonEvent button 0)) =
      ((pressedButtons mask).map fun button => buttonEvent button 0).map Op.record := by simp
  rw [releaseButtons, run_append, hrecords, run_records]
  rfl

/-- The keys of a list that are not pressed yet are pressed and recorded. -/
theorem run_enterKeys (keys : List UInt32) : ∃ es : List InputEvent, (∀ e ∈ es, e.type = .key) ∧
    w.run (enterKeys w.pressedKeys keys) =
      { w with pressedKeys := w.pressedKeys ∪ keys.toFinset, recorded := w.recorded ++ es } ∧
    (edges .key es).foldl hold w.pressedKeys = w.pressedKeys ∪ keys.toFinset := by
  induction keys generalizing w with
  | nil =>
    have hunion : w.pressedKeys ∪ [].toFinset = w.pressedKeys := Finset.union_empty _
    refine ⟨[], List.forall_mem_nil _, ?_, hunion.symm⟩
    rw [hunion, List.append_nil]
    rfl
  | cons key keys ih =>
    by_cases hmem : key ∈ w.pressedKeys
    · obtain ⟨es, hkey, hrun, hheld⟩ := ih w
      have hunion : w.pressedKeys ∪ (key :: keys).toFinset = w.pressedKeys ∪ keys.toFinset := by
        rw [List.toFinset_cons, Finset.union_insert, Finset.insert_eq_of_mem (Finset.mem_union_left _ hmem)]
      rw [enterKeys, if_pos hmem, hunion]
      exact ⟨es, hkey, hrun, hheld⟩
    · obtain ⟨es, hkey, hrun, hheld⟩ :=
        ih ((w.apply (.insertKey key)).apply (.record (keyEvent key 1)))
      have hunion : insert key w.pressedKeys ∪ keys.toFinset = w.pressedKeys ∪ (key :: keys).toFinset := by
        rw [List.toFinset_cons, Finset.union_insert, Finset.insert_union]
      refine ⟨keyEvent key 1 :: es, List.forall_mem_cons.2 ⟨rfl, hkey⟩, ?_, ?_⟩
      · rw [enterKeys, if_neg hmem, run_cons, run_cons]
        refine hrun.trans ?_
        simp only [apply, List.append_assoc, List.singleton_append, hunion]
      · rw [← hunion]
        exact hheld

end OwnWindow

/-! ### Recorded presses and releases are balanced -/

namespace Callback

/-- The compositor says that a key is released. -/
def ReleasesKey (key : UInt32) : Callback → Prop
  | .keyboardKey k state _ => k = key ∧ state = 0
  | _ => False

def ReleasesButton (button : UInt32) : Callback → Prop
  | .pointerButton b state => b = button ∧ state = 0
  | _ => False

/-- The focus goes elsewhere, or the keyboard goes. -/
def LosesKeyboard (w : OwnWindow) : Callback → Prop
  | .keyboardLeave _ => True
  | .keyboardEnter own _ => own = false
  | .seatCapabilities capabilities _ => w.keyboard = true ∧ hasKeyboard capabilities = false
  | .registryGlobalRemove name _ => w.keyboard = true ∧ name = w.seatName
  | _ => False

def LosesPointer (w : OwnWindow) : Callback → Prop
  | .pointerLeave => True
  | .pointerEnter own _ _ => own = false
  | .seatCapabilities capabilities _ => w.pointer = true ∧ hasPointer capabilities = false
  | .registryGlobalRemove name _ => w.pointer = true ∧ name = w.seatName
  | _ => False

end Callback

namespace OwnWindow

/-- A callback leaves recorded what the window tracks, and nothing pressed that was released or lost. -/
structure Settled (w : OwnWindow) (c : Callback) (w' : OwnWindow) : Prop where
  keys : heldIn .key w'.recorded = w'.pressedKeys
  buttons : heldIn .button w'.recorded = (pressedButtons w'.pressedPointerButtons).toFinset
  key_released : ∀ key, c.ReleasesKey key → key ∉ heldIn .key w'.recorded
  button_released : ∀ button, c.ReleasesButton button → button ∉ heldIn .button w'.recorded
  keyboard_lost : c.LosesKeyboard w → heldIn .key w'.recorded = ∅
  pointer_lost : c.LosesPointer w → heldIn .button w'.recorded = ∅

/-- A button that is pressed in the window is one of the five, and neither focus nor pointer comes to another
surface while something is pressed in this one. -/
def Tracked (w : OwnWindow) : Callback → Prop
  | .pointerButton button state => w.pointerInside = true → state ≠ 0 → buttonMask button ≠ 0
  | .pointerEnter own _ _ => own = false → pressedButtons w.pressedPointerButtons = []
  | .keyboardEnter own _ => own = false → w.pressedKeys = ∅
  | _ => True

/-- What is recorded is what is tracked, and a window without focus or pointer tracks nothing. -/
structure Inv (w : OwnWindow) : Prop where
  keys : heldIn .key w.recorded = w.pressedKeys
  buttons : heldIn .button w.recorded = (pressedButtons w.pressedPointerButtons).toFinset
  unfocused : w.keyboardFocused = false → w.pressedKeys = ∅
  outside : w.pointerInside = false → pressedButtons w.pressedPointerButtons = []

theorem inv_start : Inv {} where
  keys := rfl
  buttons := by decide
  unfocused _ := rfl
  outside _ := pressedButtons_zero

section

variable {w : OwnWindow} {es : List InputEvent} {order : List UInt32}

/-- Events of other types do not count. -/
theorem Inv.record (h : w.Inv) (hes : ∀ e ∈ es, e.type ≠ .key ∧ e.type ≠ .button) :
    Inv { w with recorded := w.recorded ++ es } where
  keys := (heldIn_append_of_ne fun e he => (hes e he).1).trans h.keys
  buttons := (heldIn_append_of_ne fun e he => (hes e he).2).trans h.buttons
  unfocused := h.unfocused
  outside := h.outside

theorem Inv.releaseKeys (h : w.Inv) (horder : order.toFinset = w.pressedKeys) :
    (w.run (releaseKeys order)).Inv := by
  rw [run_releaseKeys]
  have hfocus : ∀ t, InputType.focus ≠ t → heldIn t (w.recorded ++ (order.map fun key => keyEvent key 0) ++
      [focusEvent false]) = heldIn t (w.recorded ++ order.map fun key => keyEvent key 0) :=
    fun t ht => heldIn_concat_of_ne ht
  refine ⟨?_, ?_, fun _ => rfl, h.outside⟩
  · refine (hfocus .key (by decide)).trans ((heldIn_append_releases .key w.recorded order).trans ?_)
    rw [h.keys, horder, sdiff_self]
    rfl
  · refine (hfocus .button (by decide)).trans ((heldIn_append_of_ne ?_).trans h.buttons)
    intro e he
    obtain ⟨key, -, rfl⟩ := List.mem_map.1 he
    exact InputType.noConfusion

theorem Inv.releaseButtons {mask : UInt32} (h : w.Inv) (hmask : w.pressedPointerButtons = mask) :
    (w.run (releaseButtons mask)).Inv := by
  rw [run_releaseButtons]
  refine ⟨?_, ?_, h.unfocused, fun _ => pressedButtons_zero⟩
  · refine (heldIn_append_of_ne ?_).trans h.keys
    intro e he
    obtain ⟨button, -, rfl⟩ := List.mem_map.1 he
    exact InputType.noConfusion
  · refine (heldIn_append_releases .button w.recorded _).trans ?_
    rw [h.buttons, hmask, sdiff_self]
    exact congrArg List.toFinset pressedButtons_zero.symm

/-- What is left when the keyboard goes, if there was one. -/
theorem Inv.loseKeyboard (w₀ : OwnWindow) (h : w.Inv) (horder : order.toFinset = w.pressedKeys) :
    let w' := w.run (w₀.loseKeyboard order)
    w'.Inv ∧ w'.pressedPointerButtons = w.pressedPointerButtons ∧
      (w₀.keyboard = true → w'.pressedKeys = ∅) := by
  unfold OwnWindow.loseKeyboard
  by_cases hkeyboard : w₀.keyboard = true
  · obtain ⟨hkeys, hbuttons, hunfocused, houtside⟩ := h.releaseKeys horder
    rw [if_pos hkeyboard, run_append]
    refine ⟨⟨hkeys, hbuttons, hunfocused, houtside⟩, ?_, fun _ => ?_⟩
    · rw [run_releaseKeys]
      rfl
    · rw [run_releaseKeys]
      rfl
  · rw [if_neg hkeyboard]
    exact ⟨h, rfl, fun h => absurd h hkeyboard⟩

theorem Inv.losePointer (w₀ : OwnWindow) (h : w.Inv)
    (hmask : w.pressedPointerButtons = w₀.pressedPointerButtons) :
    let w' := w.run w₀.losePointer
    w'.Inv ∧ w'.pressedKeys = w.pressedKeys ∧
      (w₀.pointer = true → pressedButtons w'.pressedPointerButtons = []) := by
  unfold OwnWindow.losePointer
  by_cases hpointer : w₀.pointer = true
  · obtain ⟨hkeys, hbuttons, hunfocused, houtside⟩ := h.releaseButtons hmask
    rw [if_pos hpointer, run_append]
    refine ⟨⟨hkeys, hbuttons, hunfocused, houtside⟩, ?_, fun _ => ?_⟩
    · rw [run_releaseButtons]
      rfl
    · rw [run_releaseButtons]
      exact pressedButtons_zero
  · rw [if_neg hpointer]
    exact ⟨h, rfl, fun h => absurd h hpointer⟩

theorem Inv.remove {name : UInt32} (h : w.Inv) (horder : order.toFinset = w.pressedKeys) :
    let w' := w.run (w.ops (.registryGlobalRemove name order))
    w'.Inv ∧ (Callback.LosesKeyboard w (.registryGlobalRemove name order) → w'.pressedKeys = ∅) ∧
      (Callback.LosesPointer w (.registryGlobalRemove name order) →
        pressedButtons w'.pressedPointerButtons = []) := by
  dsimp only [ops]
  by_cases hname : name = w.seatName
  · obtain ⟨hinv, hmask, hkeys⟩ := h.loseKeyboard w horder
    obtain ⟨⟨hk, hb, hu, ho⟩, hkept, hbuttons⟩ := hinv.losePointer w hmask
    rw [if_neg (not_not.2 hname), run_append, run_append]
    exact ⟨⟨hk, hb, hu, ho⟩, fun hloss => hkept.trans (hkeys hloss.1), fun hloss => hbuttons hloss.1⟩
  · rw [if_pos hname]
    exact ⟨h, fun hloss => absurd hloss.2 hname, fun hloss => absurd hloss.2 hname⟩

theorem Inv.capabilities {capabilities : UInt32} (h : w.Inv) (horder : order.toFinset = w.pressedKeys) :
    let w' := w.run (w.ops (.seatCapabilities capabilities order))
    w'.Inv ∧ (Callback.LosesKeyboard w (.seatCapabilities capabilities order) → w'.pressedKeys = ∅) ∧
      (Callback.LosesPointer w (.seatCapabilities capabilities order) →
        pressedButtons w'.pressedPointerButtons = []) := by
  dsimp only [ops]
  rw [run_append]
  -- the pointer first, then the keyboard from what that leaves
  obtain ⟨w₁, hw₁⟩ : ∃ w₁, w₁ = w.run (if hasPointer capabilities = true then
    if w.pointer = true then [] else [.setPointer true] else w.losePointer) := ⟨_, rfl⟩
  have hpointer : w₁.Inv ∧ w₁.pressedKeys = w.pressedKeys ∧
      (w.pointer = true ∧ hasPointer capabilities = false → pressedButtons w₁.pressedPointerButtons = []) := by
    rw [hw₁]
    split
    · next hhas =>
      have hno : ¬ (w.pointer = true ∧ hasPointer capabilities = false) := fun hloss =>
        absurd hhas (by rw [hloss.2]; decide)
      split
      · exact ⟨h, rfl, fun hloss => absurd hloss hno⟩
      · exact ⟨⟨h.keys, h.buttons, h.unfocused, h.outside⟩, rfl, fun hloss => absurd hloss hno⟩
    · obtain ⟨hinv, hkeys, hbuttons⟩ := h.losePointer w rfl
      exact ⟨hinv, hkeys, fun hloss => hbuttons hloss.1⟩
  obtain ⟨hinv, hkeys, hbuttons⟩ := hpointer
  rw [← hw₁]
  split
  · next hhas =>
    have hno : ¬ (w.keyboard = true ∧ hasKeyboard capabilities = false) := fun hloss =>
      absurd hhas (by rw [hloss.2]; decide)
    split
    · exact ⟨hinv, fun hloss => absurd hloss hno, hbuttons⟩
    · exact ⟨⟨hinv.keys, hinv.buttons, hinv.unfocused, hinv.outside⟩, fun hloss => absurd hloss hno, hbuttons⟩
  · obtain ⟨hlost, hmask, hgone⟩ := hinv.loseKeyboard w (horder.trans hkeys.symm)
    exact ⟨hlost, fun hloss => hgone hloss.1, fun hloss => by rw [hmask, hbuttons hloss]⟩

theorem Inv.pointerButton {button state : UInt32} (h : w.Inv) (ht : w.Tracked (.pointerButton button state)) :
    (w.run (w.ops (.pointerButton button state))).Inv := by
  dsimp only [ops]
  by_cases hinside : w.pointerInside = true
  · rw [if_pos hinside]
    have hkeys : heldIn .key (w.recorded ++ [buttonEvent button state]) = w.pressedKeys :=
      (heldIn_concat_of_ne InputType.noConfusion).trans h.keys
    have hbuttons : heldIn .button (w.recorded ++ [buttonEvent button state]) =
        hold (pressedButtons w.pressedPointerButtons).toFinset ⟨button, state ≠ 0⟩ :=
      (heldIn_concat .button _ _ _).trans (congrArg (fun s => hold s _) h.buttons)
    refine ⟨hkeys, hbuttons.trans ?_, h.unfocused, fun hout => Bool.noConfusion (hinside.symm.trans hout)⟩
    ext other
    by_cases hstate : state = 0
    · subst hstate
      refine Finset.mem_erase.trans (.trans ?_ List.mem_toFinset.symm)
      rw [List.mem_toFinset]
      exact mem_pressedButtons_and.symm
    · have hdown : decide (state ≠ 0) = true := decide_eq_true hstate
      rw [hdown, hold_down, Finset.mem_insert, List.mem_toFinset, List.mem_toFinset]
      change _ ↔ other ∈ pressedButtons (if state ≠ 0 then _ else _)
      rw [if_pos hstate]
      exact (mem_pressedButtons_or (ht hinside hstate)).symm
  · rw [if_neg hinside]
    exact h

theorem Inv.repeatKey {key state : UInt32} {repeats : Bool} (h : w.Inv) :
    (w.apply (.repeatKey key state repeats)).Inv := by
  dsimp only [apply]
  split
  · exact ⟨h.keys, h.buttons, h.unfocused, h.outside⟩
  · split
    · exact ⟨h.keys, h.buttons, h.unfocused, h.outside⟩
    · exact h

theorem Inv.keyboardKey {key state : UInt32} {repeats : Bool} (h : w.Inv) :
    (w.run (w.ops (.keyboardKey key state repeats))).Inv := by
  dsimp only [ops]
  by_cases hfocused : w.keyboardFocused = true
  · rw [if_pos hfocused]
    have hkeys : heldIn .key (w.recorded ++ [keyEvent key state]) = hold w.pressedKeys ⟨key, state ≠ 0⟩ :=
      (heldIn_concat .key _ _ _).trans (congrArg (fun s => hold s _) h.keys)
    have hbuttons : heldIn .button (w.recorded ++ [keyEvent key state]) =
        (pressedButtons w.pressedPointerButtons).toFinset :=
      (heldIn_concat_of_ne InputType.noConfusion).trans h.buttons
    have hon : ∀ {P : Prop}, w.keyboardFocused = false → P := fun hoff =>
      Bool.noConfusion (hfocused.symm.trans hoff)
    by_cases hstate : state = 0
    · subst hstate
      have hreleased : ((w.apply (.eraseKey key)).apply (.record (keyEvent key 0))).Inv :=
        ⟨hkeys, hbuttons, hon, h.outside⟩
      rw [if_neg (not_not.2 rfl), run_cons, run_cons, run_cons, run_nil]
      exact hreleased.repeatKey
    · have hdown : decide (state ≠ 0) = true := decide_eq_true hstate
      rw [hdown] at hkeys
      have hpressed : ((w.apply (.insertKey key)).apply (.record (keyEvent key state))).Inv :=
        ⟨hkeys, hbuttons, hon, h.outside⟩
      rw [if_pos hstate, run_cons, run_cons, run_cons, run_nil]
      exact hpressed.repeatKey
  · rw [if_neg hfocused]
    exact h

theorem Inv.keyboardEnter {own : Bool} {keys : List UInt32} (h : w.Inv)
    (ht : w.Tracked (.keyboardEnter own keys)) :
    (w.run (w.ops (.keyboardEnter own keys))).Inv := by
  dsimp only [ops]
  have hkeys : heldIn .key (w.recorded ++ [focusEvent own]) = w.pressedKeys :=
    (heldIn_concat_of_ne InputType.noConfusion).trans h.keys
  have hbuttons : heldIn .button (w.recorded ++ [focusEvent own]) =
      (pressedButtons w.pressedPointerButtons).toFinset :=
    (heldIn_concat_of_ne InputType.noConfusion).trans h.buttons
  cases own with
  | false => exact ⟨hkeys, hbuttons, fun _ => ht rfl, h.outside⟩
  | true =>
    obtain ⟨es, hes, hrun, hheld⟩ :=
      run_enterKeys ((w.apply (.setFocused true)).apply (.record (focusEvent true))) keys
    rw [if_pos rfl, run_cons, run_cons]
    refine hrun ▸ ⟨?_, ?_, Bool.noConfusion, h.outside⟩
    · refine (heldIn_append _ _ _).trans ?_
      rw [show heldIn .key ((w.apply (.setFocused true)).apply (.record (focusEvent true))).recorded =
        w.pressedKeys from hkeys]
      exact hheld
    · refine (heldIn_append_of_ne fun e he => ?_).trans hbuttons
      rw [hes e he]
      exact InputType.noConfusion

/-- Every callback keeps the invariant, and leaves nothing pressed that it takes away. -/
theorem Inv.ops {c : Callback} (h : w.Inv) (hlists : w.Lists c) (ht : w.Tracked c) :
    let w' := w.run (w.ops c)
    w'.Inv ∧ (c.LosesKeyboard w → w'.pressedKeys = ∅) ∧
      (c.LosesPointer w → pressedButtons w'.pressedPointerButtons = []) := by
  cases c with
  | registryGlobal name =>
    refine ⟨?_, False.elim, False.elim⟩
    dsimp only [OwnWindow.ops]
    split
    · exact h
    · exact ⟨h.keys, h.buttons, h.unfocused, h.outside⟩
  | registryGlobalRemove name order => exact h.remove (hlists order rfl).2
  | seatCapabilities capabilities order => exact h.capabilities (hlists order rfl).2
  | pointerEnter own x y =>
    dsimp only [OwnWindow.ops]
    cases own with
    | false => exact ⟨⟨h.keys, h.buttons, h.unfocused, fun _ => ht rfl⟩, False.elim, fun _ => ht rfl⟩
    | true =>
      have hin : (w.apply (.setInside true)).Inv := ⟨h.keys, h.buttons, h.unfocused, Bool.noConfusion⟩
      refine ⟨hin.record (List.forall_mem_singleton.2 ?_), False.elim, Bool.noConfusion⟩
      exact ⟨InputType.noConfusion, InputType.noConfusion⟩
  | pointerLeave =>
    refine ⟨h.releaseButtons rfl, False.elim, fun _ => ?_⟩
    dsimp only [OwnWindow.ops]
    rw [run_releaseButtons]
    exact pressedButtons_zero
  | pointerMotion x y =>
    refine ⟨?_, False.elim, False.elim⟩
    dsimp only [OwnWindow.ops]
    split
    · refine h.record (List.forall_mem_singleton.2 ?_)
      exact ⟨InputType.noConfusion, InputType.noConfusion⟩
    · exact h
  | pointerButton button state => exact ⟨h.pointerButton ht, False.elim, False.elim⟩
  | pointerFrame detents =>
    refine ⟨?_, False.elim, False.elim⟩
    have hrecords : detents.map (fun d => Op.record ⟨.axis, d.1, d.2⟩) =
        (detents.map fun d => (⟨.axis, d.1, d.2⟩ : InputEvent)).map Op.record := by simp
    dsimp only [OwnWindow.ops]
    rw [hrecords, run_records]
    refine h.record fun e he => ?_
    obtain ⟨d, -, rfl⟩ := List.mem_map.1 he
    exact ⟨InputType.noConfusion, InputType.noConfusion⟩
  | keyboardEnter own keys =>
    refine ⟨h.keyboardEnter ht, fun hlost => ?_, False.elim⟩
    obtain rfl : own = false := hlost
    exact ht rfl
  | keyboardLeave order =>
    refine ⟨h.releaseKeys (hlists order rfl).2, fun _ => ?_, False.elim⟩
    dsimp only [OwnWindow.ops]
    rw [run_releaseKeys]
  | keyboardKey key state repeats => exact ⟨h.keyboardKey, False.elim, False.elim⟩
  | keyboardRepeatInfo rate =>
    exact ⟨⟨h.keys, h.buttons, h.unfocused, h.outside⟩, False.elim, False.elim⟩

/-- A key that the compositor reports as released is released in the record. -/
theorem Inv.key_released {key state : UInt32} {repeats : Bool} (h : w.Inv) (hstate : state = 0) :
    key ∉ heldIn .key (w.run (w.ops (.keyboardKey key state repeats))).recorded := by
  subst hstate
  rw [h.keyboardKey.keys]
  dsimp only [OwnWindow.ops]
  by_cases hfocused : w.keyboardFocused = true
  · rw [if_pos hfocused, if_neg (not_not.2 rfl)]
    have hkept : ∀ w₁ : OwnWindow, (w₁.apply (.repeatKey key 0 repeats)).pressedKeys = w₁.pressedKeys := by
      intro w₁
      dsimp only [apply]
      split
      · rfl
      · split <;> rfl
    rw [run_cons, run_cons, run_cons, run_nil, hkept]
    exact Finset.notMem_erase key _
  · rw [if_neg hfocused]
    change key ∉ w.pressedKeys
    rw [h.unfocused (Bool.eq_false_iff.2 hfocused)]
    exact Finset.notMem_empty key

theorem Inv.button_released {button state : UInt32} (h : w.Inv)
    (ht : w.Tracked (.pointerButton button state)) (hstate : state = 0) :
    button ∉ heldIn .button (w.run (w.ops (.pointerButton button state))).recorded := by
  subst hstate
  rw [(h.pointerButton ht).buttons, List.mem_toFinset]
  dsimp only [OwnWindow.ops]
  by_cases hinside : w.pointerInside = true
  · rw [if_pos hinside, if_neg (not_not.2 rfl)]
    exact fun hmem => (mem_pressedButtons_and.1 hmem).1 rfl
  · rw [if_neg hinside]
    change button ∉ pressedButtons w.pressedPointerButtons
    rw [h.outside (Bool.eq_false_iff.2 hinside)]
    exact List.not_mem_nil

variable {c : Callback}

theorem settled_of_tracked (h : w.Inv) (hlists : w.Lists c) (ht : w.Tracked c) :
    Settled w c (w.run (w.ops c)) := by
  obtain ⟨hinv, hkeyboard, hpointer⟩ := h.ops hlists ht
  refine ⟨hinv.keys, hinv.buttons, ?_, ?_, fun hlost => ?_, fun hlost => ?_⟩
  · intro key hkey
    cases c with
    | keyboardKey k state repeats =>
      obtain ⟨rfl, hstate⟩ := hkey
      exact h.key_released hstate
    | _ => exact hkey.elim
  · intro button hbutton
    cases c with
    | pointerButton b state =>
      obtain ⟨rfl, hstate⟩ := hbutton
      exact h.button_released ht hstate
    | _ => exact hbutton.elim
  · rw [hinv.keys, hkeyboard hlost]
  · rw [hinv.buttons, hpointer hlost]
    rfl

/-- A callback that presses what is not tracked, or takes the focus or the pointer from what is pressed,
leaves something pressed. -/
theorem tracked_of_settled (hsettled : Settled w c (w.run (w.ops c))) : w.Tracked c := by
  cases c with
  | pointerButton button state =>
    intro hinside hstate hzero
    have hmem : button ∈ heldIn .button (w.run (w.ops (.pointerButton button state))).recorded := by
      dsimp only [OwnWindow.ops]
      rw [if_pos hinside]
      refine (congrArg (button ∈ ·) (heldIn_concat .button w.recorded button state)).mpr ?_
      rw [decide_eq_true hstate]
      exact Finset.mem_insert_self _ _
    rw [hsettled.buttons, List.mem_toFinset, mem_pressedButtons, hzero, UInt32.and_zero] at hmem
    exact hmem rfl
  | pointerEnter own x y =>
    rintro rfl
    have hlost := hsettled.pointer_lost rfl
    rw [hsettled.buttons] at hlost
    exact (List.toFinset_eq_empty_iff _).1 hlost
  | keyboardEnter own keys =>
    rintro rfl
    have hlost := hsettled.keyboard_lost rfl
    rw [hsettled.keys] at hlost
    exact hlost
  | _ => trivial

end

/-- Every callback of a run settles exactly if every callback of it is tracked. -/
theorem run_settled_iff {w : OwnWindow} {cs : List Callback} (h : Run step {} cs w) :
    RunWhere step (fun w c => ∀ w' ∈ step w c, Settled w c w') {} cs w ↔ RunWhere step Tracked {} cs w := by
  have hstep : ∀ {w w' : OwnWindow} {c : Callback}, step w c = some w' → w.Lists c ∧ w' = w.run (w.ops c) := by
    intro w w' c hs
    unfold step at hs
    split at hs
    · next hlists => exact ⟨hlists, (Option.some.inj hs).symm⟩
    · exact nomatch hs
  refine runWhere_iff_of_invariant h inv_start (fun w₁ c w₂ hw ht hs => ?_) fun w₁ c w₂ hw hs => ?_
  · obtain ⟨hlists, rfl⟩ := hstep hs
    exact (hw.ops hlists ht).1
  · obtain ⟨hlists, rfl⟩ := hstep hs
    constructor
    · exact fun hsettled => tracked_of_settled (hsettled _ hs)
    · intro ht w' hw'
      obtain ⟨-, rfl⟩ := hstep hw'
      exact settled_of_tracked hw hlists ht

/-- A sixth button is pressed in the window, and the pointer leaves. -/
def sixthButton : List Callback :=
  [.registryGlobal 7, .seatCapabilities 1 [], .pointerEnter true 0 0, .pointerButton 0x115 1, .pointerLeave]

def afterSixthButton : OwnWindow :=
  { seatName := 7, seat := true, pointer := true
    recorded := [motionEvent 0 0, buttonEvent 0x115 1] }

theorem run_sixthButton : Run step {} sixthButton afterSixthButton := run_of_runList (by decide)

/-- The button stays pressed in the record, and no callback will release it. -/
theorem sixth_button_stuck :
    Run step {} sixthButton afterSixthButton ∧ heldIn .button afterSixthButton.recorded = {0x115} ∧
      pressedButtons afterSixthButton.pressedPointerButtons = [] ∧
      ¬ RunWhere step (fun w c => ∀ w' ∈ step w c, Settled w c w') {} sixthButton afterSixthButton := by
  refine ⟨run_sixthButton, by decide, by decide, fun h => ?_⟩
  have hbefore : Run step {} (sixthButton.take 4) { afterSixthButton with pointerInside := true } :=
    run_of_runList (by decide)
  have hleave : step { afterSixthButton with pointerInside := true } .pointerLeave = some afterSixthButton := by
    decide
  have hsettled := ((runWhere_snoc_iff hbefore hleave).1 h).2
  have hlost := (hsettled afterSixthButton hleave).pointer_lost trivial
  revert hlost
  decide

/-- The last button that has a bit is pressed in the window, and the pointer leaves. -/
def fifthButton : List Callback :=
  [.registryGlobal 7, .seatCapabilities 1 [], .pointerEnter true 0 0, .pointerButton 0x114 1, .pointerLeave]

def afterFifthButton : OwnWindow :=
  { seatName := 7, seat := true, pointer := true
    recorded := [motionEvent 0 0, buttonEvent 0x114 1, buttonEvent 0x114 0] }

theorem run_settled_iff_fifth :
    RunWhere step (fun w c => ∀ w' ∈ step w c, Settled w c w') {} fifthButton afterFifthButton := by
  have hrun : runList step {} fifthButton = some afterFifthButton := by decide
  refine (run_settled_iff (run_of_runList hrun)).2 (runWhere_of_runList hrun fun k c w hc _ => ?_)
  have htracked : ∀ c ∈ fifthButton, ∀ w, Tracked w c := by
    simp [fifthButton, Tracked, buttonMask]
  exact htracked c (List.mem_of_getElem? hc) w

end OwnWindow

end VkRemote.Server
