import VulkanRemote.Lib.Held
import VulkanRemote.Server.InputQueue

/-! What a Windows client makes of the events of its window: the messages it posts, and the buttons and keys it
takes to be pressed. -/

namespace VkRemote.Client

open Lib Server

/-- `kLetters`, by the code of the key. -/
def kLetters : List UInt32 :=
  .replicate 16 0 ++ "QWERTYUIOP".toList.map Char.val ++ .replicate 4 0 ++ "ASDFGHJKL".toList.map Char.val ++
    .replicate 5 0 ++ "ZXCVBNM".toList.map Char.val

def vkReturn : UInt32 := 0x0D
def vkF1 : UInt32 := 0x70
def vkLShift : UInt32 := 0xA0
def vkRShift : UInt32 := 0xA1
def vkLControl : UInt32 := 0xA2
def vkRControl : UInt32 := 0xA3
def vkLMenu : UInt32 := 0xA4
def vkRMenu : UInt32 := 0xA5

/-- The cases of the `switch`: those of the main block, those of the navigation block, and those of the keypad
with what is around it. -/
def virtualKeys : List (UInt32 × UInt32) :=
  [(1, 0x1B), (12, 0xBD), (13, 0xBB), (14, 0x08), (15, 0x09), (26, 0xDB), (27, 0xDD), (28, vkReturn),
    (29, vkLControl), (39, 0xBA), (40, 0xDE), (41, 0xC0), (42, vkLShift), (43, 0xDC), (51, 0xBC), (52, 0xBE),
    (53, 0xBF), (54, vkRShift), (56, vkLMenu), (57, 0x20), (58, 0x14), (87, 0x7A), (88, 0x7B),
    (97, vkRControl), (100, vkRMenu)] ++
  [(102, 0x24), (103, 0x26), (104, 0x21), (105, 0x25), (106, 0x27), (107, 0x23), (108, 0x28), (109, 0x22)] ++
  [(55, 0x6A), (69, 0x90), (70, 0x91), (71, 0x67), (72, 0x68), (73, 0x69), (74, 0x6D), (75, 0x64), (76, 0x65),
    (77, 0x66), (78, 0x6B), (79, 0x61), (80, 0x62), (81, 0x63), (82, 0x60), (83, 0x6E), (96, vkReturn),
    (98, 0x6F), (99, 0x2C), (110, 0x2D), (111, 0x2E), (125, 0x5B), (126, 0x5C)]

/-- Zero is no key. -/
def evdevToVirtualKey (key : UInt32) : UInt32 :=
  if 2 ≤ key ∧ key ≤ 10 then '1'.val + key - 2
  else if key = 11 then '0'.val
  else if kLetters.getD key.toNat 0 ≠ 0 then kLetters.getD key.toNat 0
  else if 59 ≤ key ∧ key ≤ 68 then vkF1 + key - 59
  else (virtualKeys.lookup key).getD 0

/-- The right hand modifiers, the navigation block, and what the keypad has of its own. -/
def extendedKeys : List UInt32 :=
  [vkRControl, vkRMenu, 0x2D, 0x2E, 0x24, 0x23, 0x21, 0x22, 0x25, 0x27, 0x26, 0x28, 0x90, 0x2C, 0x6F, 0x5B, 0x5C]

/-- Keypad Enter has the virtual key of the other one. -/
def extendedEvdevKey (evdev key : UInt32) : Bool := evdev = 96 ∨ key ∈ extendedKeys

inductive WindowMessage
  | mouseMove
  | lButtonDown
  | lButtonUp
  | rButtonDown
  | rButtonUp
  | mButtonDown
  | mButtonUp
  | xButtonDown
  | xButtonUp
  | mouseWheel
  | mouseHWheel
  | keyDown
  | keyUp
  | sysKeyDown
  | sysKeyUp
  | setFocus
  | killFocus
  deriving DecidableEq

/-- What `PostMessageW` is called with. -/
structure Message where
  hwnd : UInt64
  msg : WindowMessage
  wParam : UInt64
  lParam : UInt64
  deriving DecidableEq

/-- What is asked of the window system: the scan code of a virtual key, and where a point of a window is on the
screen. -/
structure WindowSystem where
  mapVirtualKey : UInt32 → UInt32
  clientToScreen : UInt64 → UInt16 × UInt16 → UInt16 × UInt16

/-- The state that the client keeps for a surface. -/
structure SurfaceInput where
  buttons : UInt32 := 0
  position : UInt32 := 0
  pressedKeys : List UInt32 := []
  deriving DecidableEq

/-- `MAKELPARAM`, and `MAKEWPARAM` alike. -/
def makeParam (low high : UInt16) : UInt32 := low.toUInt32 ||| (high.toUInt32 <<< 16)

def xButton1 : UInt16 := 1
def xButton2 : UInt16 := 2

def flagWhen (b : Bool) (flag : UInt64) : UInt64 := if b then flag else 0

/-- A `long` has 32 bits: the highest of them fills the upper half. -/
def keyLParam (sys : WindowSystem) (evdev key : UInt32) (pressed repeated altDown : Bool) : UInt64 :=
  let scan := if evdev = 96 then sys.mapVirtualKey vkReturn else sys.mapVirtualKey key
  (1 : UInt64) ||| ((scan &&& 0xFF).toUInt64 <<< 16) ||| flagWhen (extendedEvdevKey evdev key) 0x1000000 |||
    flagWhen altDown 0x20000000 ||| flagWhen (repeated || !pressed) 0x40000000 |||
    flagWhen (!pressed) 0xFFFFFFFF80000000

/-- The bits of the five buttons, of Shift and of Control. -/
def mouseWParam (buttons : UInt32) (pressedKeys : List UInt32) : UInt16 :=
  (if buttons &&& 1 ≠ 0 then 0x01 else 0) ||| (if buttons &&& 2 ≠ 0 then 0x02 else 0) |||
    (if buttons &&& 4 ≠ 0 then 0x10 else 0) ||| (if buttons &&& 8 ≠ 0 then 0x20 else 0) |||
    (if buttons &&& 16 ≠ 0 then 0x40 else 0) |||
    (if vkLShift ∈ pressedKeys ∨ vkRShift ∈ pressedKeys then 0x04 else 0) |||
    (if vkLControl ∈ pressedKeys ∨ vkRControl ∈ pressedKeys then 0x08 else 0)

def buttonMessage (button : UInt32) (down : Bool) : WindowMessage :=
  if button = 0x110 then if down then .lButtonDown else .lButtonUp
  else if button = 0x111 then if down then .rButtonDown else .rButtonUp
  else if button = 0x112 then if down then .mButtonDown else .mButtonUp
  else if down then .xButtonDown else .xButtonUp

/-- Which of the two extra buttons. -/
def xButton (button : UInt32) : UInt16 :=
  if button = 0x113 then xButton1 else if button = 0x114 then xButton2 else 0

def keyMessage (system down : Bool) : WindowMessage :=
  if down then if system then .sysKeyDown else .keyDown
  else if system then .sysKeyUp else .keyUp

def isMenu (key : UInt32) : Bool := key = vkLMenu ∨ key = vkRMenu

namespace SurfaceInput

/-- Alt is held. -/
def altDown (input : SurfaceInput) : Bool := vkLMenu ∈ input.pressedKeys ∨ vkRMenu ∈ input.pressedKeys

def setButton (input : SurfaceInput) (button : UInt32) (down : Bool) : SurfaceInput :=
  { input with
    buttons := if down then input.buttons ||| buttonMask button else input.buttons &&& ~~~buttonMask button }

/-- A key is in the list once; its release takes it out. -/
def setKey (input : SurfaceInput) (key : UInt32) (down : Bool) : SurfaceInput :=
  if down then
    if key ∈ input.pressedKeys then input else { input with pressedKeys := input.pressedKeys ++ [key] }
  else { input with pressedKeys := input.pressedKeys.erase key }

end SurfaceInput

section

variable (sys : WindowSystem) (hwnd : UInt64) (input : SurfaceInput)

def postMotion (a b : UInt32) : SurfaceInput × List Message :=
  let position := makeParam a.toUInt16 b.toUInt16
  ({ input with position := position },
    [⟨hwnd, .mouseMove, (mouseWParam input.buttons input.pressedKeys).toUInt64, position.toUInt64⟩])

/-- A button that is none of the five is passed over. -/
def postButton (a b : UInt32) : SurfaceInput × List Message :=
  if buttonMask a = 0 then (input, [])
  else
    let input' := input.setButton a (b ≠ 0)
    (input', [⟨hwnd, buttonMessage a (b ≠ 0),
      (makeParam (mouseWParam input'.buttons input.pressedKeys) (xButton a)).toUInt64, input.position.toUInt64⟩])

def postAxis (a b : UInt32) : SurfaceInput × List Message :=
  let delta := (if a = 0 then -b else b) * 120
  let point := sys.clientToScreen hwnd (input.position.toUInt16, (input.position >>> 16).toUInt16)
  (input, [⟨hwnd, if a = 0 then .mouseWheel else .mouseHWheel,
    (makeParam (mouseWParam input.buttons input.pressedKeys) delta.toUInt16).toUInt64,
    (makeParam point.1 point.2).toUInt64⟩])

/-- A key that is no virtual key is passed over. -/
def postKey (a b : UInt32) : SurfaceInput × List Message :=
  let key := evdevToVirtualKey a
  if key = 0 then (input, [])
  else
    (input.setKey key (b ≠ 0), [⟨hwnd, keyMessage (input.altDown || isMenu key) (b ≠ 0), key.toUInt64,
      keyLParam sys a key (b ≠ 0) (b = 2) input.altDown⟩])

/-- `isWindow` says whether the handle still is one. -/
def postWindowEvent (isWindow : Bool) (e : RecordedInput) : SurfaceInput × List Message :=
  if hwnd = 0 ∨ isWindow = false then (input, [])
  else
    match e.type with
    | .motion => postMotion hwnd input e.a e.b
    | .button => postButton hwnd input e.a e.b
    | .axis => postAxis sys hwnd input e.a e.b
    | .key => postKey sys hwnd input e.a e.b
    | .focus => (input, [⟨hwnd, if e.a ≠ 0 then .setFocus else .killFocus, 0, 0⟩])

/-- The release of a button at an overflow. -/
def buttonRelease (button : UInt32) : Message :=
  ⟨hwnd, buttonMessage button false, (makeParam 0 (xButton button)).toUInt64, input.position.toUInt64⟩

/-- The release of a key at an overflow: it is not known which key of the keyboard it was. -/
def keyRelease (key : UInt32) : Message :=
  ⟨hwnd, keyMessage (isMenu key) false, key.toUInt64, keyLParam sys 0 key false false (isMenu key)⟩

/-- Everything that is held is released: the buttons bit by bit, then the keys. -/
def resetMessages : List Message :=
  (pressedButtons input.buttons).map (buttonRelease hwnd input) ++ input.pressedKeys.map (keyRelease sys hwnd)

end

/-! ### What is held -/

/-- The event is for a button or a key that the client knows, if it is for a button or a key. -/
def HasMessage (e : RecordedInput) : Prop :=
  (e.type = .button → buttonMask e.a ≠ 0) ∧ (e.type = .key → evdevToVirtualKey e.a ≠ 0)

instance (e : RecordedInput) : Decidable (HasMessage e) := inferInstanceAs (Decidable (_ ∧ _))

def buttonEdge (e : RecordedInput) : Option (Edge UInt32) :=
  if e.type = .button ∧ buttonMask e.a ≠ 0 then some ⟨e.a, e.b ≠ 0⟩ else none

def keyEdge (e : RecordedInput) : Option (Edge UInt32) :=
  if e.type = .key ∧ evdevToVirtualKey e.a ≠ 0 then some ⟨evdevToVirtualKey e.a, e.b ≠ 0⟩ else none

/-- The buttons that the events leave pressed. -/
def heldButtons (es : List RecordedInput) : Finset UInt32 := held (es.filterMap buttonEdge)

/-- The virtual keys that the events leave pressed. -/
def heldKeys (es : List RecordedInput) : Finset UInt32 := held (es.filterMap keyEdge)

/-- The client takes to be pressed what the events left pressed. -/
structure SurfaceInput.Tracks (input : SurfaceInput) (es : List RecordedInput) : Prop where
  buttons : (pressedButtons input.buttons).toFinset = heldButtons es
  keys : input.pressedKeys.toFinset = heldKeys es
  nodup : input.pressedKeys.Nodup

section

variable {sys : WindowSystem} {hwnd : UInt64} {input : SurfaceInput} {isWindow : Bool} {e : RecordedInput}
  {es : List RecordedInput}

theorem heldButtons_concat_of_none (h : buttonEdge e = none) : heldButtons (es ++ [e]) = heldButtons es := by
  rw [heldButtons, List.filterMap_append, List.filterMap_cons_none h, List.filterMap_nil, List.append_nil,
    heldButtons]

theorem heldButtons_concat_of_some {edge : Edge UInt32} (h : buttonEdge e = some edge) :
    heldButtons (es ++ [e]) = hold (heldButtons es) edge := by
  rw [heldButtons, List.filterMap_append, List.filterMap_cons_some h, List.filterMap_nil, held_concat,
    heldButtons]

theorem heldKeys_concat_of_none (h : keyEdge e = none) : heldKeys (es ++ [e]) = heldKeys es := by
  rw [heldKeys, List.filterMap_append, List.filterMap_cons_none h, List.filterMap_nil, List.append_nil, heldKeys]

theorem heldKeys_concat_of_some {edge : Edge UInt32} (h : keyEdge e = some edge) :
    heldKeys (es ++ [e]) = hold (heldKeys es) edge := by
  rw [heldKeys, List.filterMap_append, List.filterMap_cons_some h, List.filterMap_nil, held_concat, heldKeys]

theorem tracks_start : SurfaceInput.Tracks {} [] where
  buttons := by decide
  keys := rfl
  nodup := List.nodup_nil

/-- An event that moves nothing leaves everything as it is. -/
theorem SurfaceInput.Tracks.of_none (h : input.Tracks es) (hbutton : buttonEdge e = none)
    (hkey : keyEdge e = none) : input.Tracks (es ++ [e]) where
  buttons := (heldButtons_concat_of_none hbutton).symm ▸ h.buttons
  keys := (heldKeys_concat_of_none hkey).symm ▸ h.keys
  nodup := h.nodup

theorem toFinset_setButton {button : UInt32} (down : Bool) (hbutton : buttonMask button ≠ 0) :
    (pressedButtons (input.setButton button down).buttons).toFinset =
      hold (pressedButtons input.buttons).toFinset ⟨button, down⟩ := by
  ext other
  cases down with
  | true =>
    show other ∈ (pressedButtons (input.buttons ||| buttonMask button)).toFinset ↔ _
    rw [hold_down, Finset.mem_insert, List.mem_toFinset, List.mem_toFinset, mem_pressedButtons_or hbutton]
  | false =>
    show other ∈ (pressedButtons (input.buttons &&& ~~~buttonMask button)).toFinset ↔ _
    rw [hold_up, Finset.mem_erase, List.mem_toFinset, List.mem_toFinset, mem_pressedButtons_and]

theorem nodup_setKey (h : input.pressedKeys.Nodup) (key : UInt32) (down : Bool) :
    (input.setKey key down).pressedKeys.Nodup := by
  cases down with
  | true =>
    by_cases hmem : key ∈ input.pressedKeys
    · rwa [SurfaceInput.setKey, if_pos rfl, if_pos hmem]
    · rw [SurfaceInput.setKey, if_pos rfl, if_neg hmem]
      exact h.append (List.nodup_singleton key) (List.disjoint_singleton.2 hmem)
  | false => exact h.erase key

theorem toFinset_setKey (h : input.pressedKeys.Nodup) (key : UInt32) (down : Bool) :
    (input.setKey key down).pressedKeys.toFinset = hold input.pressedKeys.toFinset ⟨key, down⟩ := by
  cases down with
  | true =>
    rw [hold_down]
    by_cases hmem : key ∈ input.pressedKeys
    · rw [SurfaceInput.setKey, if_pos rfl, if_pos hmem, Finset.insert_eq_of_mem (List.mem_toFinset.2 hmem)]
    · rw [SurfaceInput.setKey, if_pos rfl, if_neg hmem]
      ext other
      simp
  | false =>
    rw [hold_up]
    ext other
    rw [List.mem_toFinset, Finset.mem_erase, List.mem_toFinset]
    exact h.mem_erase_iff

theorem hasMessage_of_ne (hbutton : e.type ≠ .button) (hkey : e.type ≠ .key) : HasMessage e :=
  ⟨fun h => absurd h hbutton, fun h => absurd h hkey⟩

theorem buttonEdge_of_ne (h : e.type ≠ .button) : buttonEdge e = none := if_neg fun hbutton => h hbutton.1

theorem keyEdge_of_ne (h : e.type ≠ .key) : keyEdge e = none := if_neg fun hkey => h hkey.1

/-- Without a message there is nothing to track. -/
theorem edges_of_not_hasMessage (h : ¬ HasMessage e) : buttonEdge e = none ∧ keyEdge e = none := by
  constructor
  · refine if_neg fun hbutton => h ⟨fun _ => hbutton.2, fun hkey => ?_⟩
    exact InputType.noConfusion (hbutton.1.symm.trans hkey)
  · refine if_neg fun hkey => h ⟨fun hbutton => ?_, fun _ => hkey.2⟩
    exact InputType.noConfusion (hbutton.symm.trans hkey.1)

theorem SurfaceInput.Tracks.postButton (h : input.Tracks es) (htype : e.type = .button) :
    (postButton hwnd input e.a e.b).1.Tracks (es ++ [e]) := by
  have hkey : keyEdge e = none := keyEdge_of_ne (by rw [htype]; decide)
  by_cases hbutton : buttonMask e.a = 0
  · rw [Client.postButton, if_pos hbutton]
    exact h.of_none (if_neg fun hnone => hnone.2 hbutton) hkey
  · rw [Client.postButton, if_neg hbutton]
    refine ⟨?_, (heldKeys_concat_of_none hkey).symm ▸ h.keys, h.nodup⟩
    rw [heldButtons_concat_of_some (if_pos ⟨htype, hbutton⟩), ← h.buttons]
    exact toFinset_setButton _ hbutton

theorem SurfaceInput.Tracks.postKey (h : input.Tracks es) (htype : e.type = .key) :
    (postKey sys hwnd input e.a e.b).1.Tracks (es ++ [e]) := by
  have hbutton : buttonEdge e = none := buttonEdge_of_ne (by rw [htype]; decide)
  by_cases hkey : evdevToVirtualKey e.a = 0
  · rw [Client.postKey, if_pos hkey]
    exact h.of_none hbutton (if_neg fun hnone => hnone.2 hkey)
  · rw [Client.postKey, if_neg hkey]
    refine ⟨(heldButtons_concat_of_none hbutton).symm ▸ ?_, ?_, nodup_setKey h.nodup _ _⟩
    · rw [← h.buttons, SurfaceInput.setKey]
      split_ifs <;> rfl
    · rw [heldKeys_concat_of_some (if_pos ⟨htype, hkey⟩), ← h.keys]
      exact toFinset_setKey h.nodup _ _

theorem not_gone (h : hwnd ≠ 0 ∧ isWindow = true) : ¬ (hwnd = 0 ∨ isWindow = false) := by
  rwa [← Bool.not_eq_true, ← not_ne_iff, ← not_and_or, not_not]

theorem postWindowEvent_of_gone (h : ¬ (hwnd ≠ 0 ∧ isWindow = true)) :
    postWindowEvent sys hwnd input isWindow e = (input, []) := by
  refine if_pos ?_
  rwa [not_and_or, not_ne_iff, Bool.not_eq_true] at h

/-- Whatever has a message finds the window there. -/
theorem SurfaceInput.Tracks.postWindowEvent (h : input.Tracks es)
    (hthere : HasMessage e → hwnd ≠ 0 ∧ isWindow = true) :
    (postWindowEvent sys hwnd input isWindow e).1.Tracks (es ++ [e]) := by
  by_cases hwindow : hwnd ≠ 0 ∧ isWindow = true
  · rw [Client.postWindowEvent, if_neg (not_gone hwindow)]
    cases htype : e.type with
    | motion =>
      have hmoved := h.of_none (e := e) (buttonEdge_of_ne (by simp [htype])) (keyEdge_of_ne (by simp [htype]))
      exact ⟨hmoved.buttons, hmoved.keys, hmoved.nodup⟩
    | button => exact h.postButton htype
    | axis => exact h.of_none (buttonEdge_of_ne (by simp [htype])) (keyEdge_of_ne (by simp [htype]))
    | key => exact h.postKey htype
    | focus => exact h.of_none (buttonEdge_of_ne (by simp [htype])) (keyEdge_of_ne (by simp [htype]))
  · obtain ⟨hbutton, hkey⟩ := edges_of_not_hasMessage fun hmessage => hwindow (hthere hmessage)
    rw [postWindowEvent_of_gone hwindow]
    exact h.of_none hbutton hkey

theorem length_postWindowEvent (hthere : HasMessage e → hwnd ≠ 0 ∧ isWindow = true) :
    (postWindowEvent sys hwnd input isWindow e).2.length = if HasMessage e then 1 else 0 := by
  by_cases hwindow : hwnd ≠ 0 ∧ isWindow = true
  · rw [Client.postWindowEvent, if_neg (not_gone hwindow)]
    cases htype : e.type with
    | motion => exact (if_pos (hasMessage_of_ne (by simp [htype]) (by simp [htype]))).symm
    | axis => exact (if_pos (hasMessage_of_ne (by simp [htype]) (by simp [htype]))).symm
    | focus => exact (if_pos (hasMessage_of_ne (by simp [htype]) (by simp [htype]))).symm
    | button =>
      by_cases hbutton : buttonMask e.a = 0
      · have hnone : ¬ HasMessage e := fun hmessage => hmessage.1 htype hbutton
        rw [if_neg hnone, postButton, if_pos hbutton, List.length_nil]
      · have hsome : HasMessage e := ⟨fun _ => hbutton, fun hkey => absurd hkey (by simp [htype])⟩
        rw [if_pos hsome, postButton, if_neg hbutton, List.length_singleton]
    | key =>
      by_cases hkey : evdevToVirtualKey e.a = 0
      · have hnone : ¬ HasMessage e := fun hmessage => hmessage.2 htype hkey
        rw [if_neg hnone, postKey, if_pos hkey, List.length_nil]
      · have hsome : HasMessage e := ⟨fun hbutton => absurd hbutton (by simp [htype]), fun _ => hkey⟩
        rw [if_pos hsome, postKey, if_neg hkey, List.length_singleton]
  · rw [postWindowEvent_of_gone hwindow, if_neg fun hmessage => hwindow (hthere hmessage), List.length_nil]

end

end VkRemote.Client
