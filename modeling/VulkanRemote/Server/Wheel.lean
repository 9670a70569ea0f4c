import Mathlib.Algebra.BigOperators.Group.List.Basic
import Mathlib.Data.List.Forall2
import Mathlib.Data.Fintype.Defs
import VulkanRemote.Lib.Carry
import VulkanRemote.Server.OwnWindow

/-! The wheel of the server's own window. A frame of the pointer may describe one movement of an axis in three
units, with the events in any order; what makes no whole detent is kept for a later frame. The callbacks have
one accumulator and one remainder an axis for all of it. -/

namespace VkRemote.Server
open Lib

inductive Axis
  | vertical
  | horizontal
  deriving DecidableEq

instance : Fintype Axis := ⟨{.vertical, .horizontal}, fun a => by cases a <;> decide⟩

/-- `axis == 0`. -/
def Axis.ofCode (axis : UInt32) : Axis := if axis = 0 then .vertical else .horizontal

/-- What `emit` is called with. -/
def Axis.code : Axis → UInt32
  | vertical => 0
  | horizontal => 1

theorem Axis.code_injective : Function.Injective Axis.code := by decide

/-! ### What the frames amount to -/

inductive ScrollUnit
  | pixels
  | discrete
  | value120
  deriving DecidableEq

instance : Fintype ScrollUnit := ⟨{.pixels, .discrete, .value120}, fun u => by cases u <;> decide⟩

/-- So much of a unit is a detent; pixels come in 256ths. -/
def ScrollUnit.size : ScrollUnit → ℤ
  | pixels => 15 * 256
  | discrete => 1
  | value120 => 120

theorem ScrollUnit.size_pos : ∀ u : ScrollUnit, 0 < u.size := by decide

/-- One event of a frame, on the axis that is looked at. -/
structure AxisInput where
  unit : ScrollUnit
  amount : Int32
  deriving DecidableEq

/-- The amount of a unit in a frame. -/
def total (u : ScrollUnit) (f : List AxisInput) : ℤ :=
  ((f.filter fun i => i.unit = u).map fun i => i.amount.toInt).sum

/-- The finest unit that counts anything; pixels are for frames in which nothing is counted. -/
def frameUnit (f : List AxisInput) : ScrollUnit :=
  if f.any fun i => i.unit = .value120 then .value120
  else if f.any fun i => i.unit = .discrete then .discrete
  else .pixels

/-- No detents are not recorded. -/
def noted (detents : ℤ) : List ℤ := if detents = 0 then [] else [detents]

/-- What the frames of an axis come to: the detents of each, and a carry for each unit. -/
structure Account where
  carry : ScrollUnit → Carry := fun _ => {}
  detents : List ℤ := []

namespace Account

def close (a : Account) (f : List AxisInput) : Account :=
  let u := frameUnit f
  { carry := Function.update a.carry u ((a.carry u).put u.size (total u f))
    detents := a.detents ++ noted (((a.carry u).rest + total u f).tdiv u.size) }

def ofFrames (fs : List (List AxisInput)) : Account := fs.foldl close {}

end Account

section

variable {f g : List AxisInput} {fs gs : List (List AxisInput)}

theorem total_concat (u : ScrollUnit) (f : List AxisInput) (i : AxisInput) :
    total u (f ++ [i]) = total u f + if i.unit = u then i.amount.toInt else 0 := by
  by_cases h : i.unit = u <;> simp [total, List.filter_append, h]

theorem total_eq_zero {u : ScrollUnit} (h : ∀ i ∈ f, i.unit ≠ u) : total u f = 0 := by
  have hnone : f.filter (fun i => i.unit = u) = [] := by
    refine List.filter_eq_nil_iff.2 fun i hi => ?_
    simpa using h i hi
  rw [total, hnone]
  rfl

/-- The order of the events in a frame does not matter. -/
theorem Account.close_perm (h : f.Perm g) (a : Account) : a.close f = a.close g := by
  have hunit : frameUnit f = frameUnit g := by
    unfold frameUnit
    rw [h.any_eq, h.any_eq]
  have htotal : ∀ u, total u f = total u g := fun u => ((h.filter _).map _).sum_eq
  dsimp only [close]
  rw [hunit, htotal]

theorem Account.foldl_perm (h : List.Forall₂ List.Perm fs gs) (a : Account) :
    fs.foldl close a = gs.foldl close a := by
  induction h generalizing a with
  | nil => rfl
  | cons hperm _ ih => rw [List.foldl_cons, List.foldl_cons, close_perm hperm, ih]

theorem Account.ofFrames_perm (h : List.Forall₂ List.Perm fs gs) : ofFrames fs = ofFrames gs :=
  foldl_perm h {}

theorem Account.ofFrames_concat (fs : List (List AxisInput)) (f : List AxisInput) :
    ofFrames (fs ++ [f]) = (ofFrames fs).close f := by
  rw [ofFrames, List.foldl_append]
  rfl

/-- Of every unit, the detents and the rest are what the frames that were counted in it put in. -/
theorem Account.content_ofFrames (fs : List (List AxisInput)) (u : ScrollUnit) :
    ((ofFrames fs).carry u).content u.size =
      ((fs.filter fun f => frameUnit f = u).map fun f => total u f).sum := by
  induction fs using List.reverseRecOn with
  | nil => simp [ofFrames, Carry.content]
  | append_singleton fs f ih =>
    rw [ofFrames_concat, List.filter_append, List.map_append, List.sum_append, ← ih]
    by_cases h : frameUnit f = u
    · subst h
      simp [close, Carry.content_put]
    · simp [close, Function.update_of_ne (Ne.symm h), h]

theorem sum_noted (n : ℤ) : (noted n).sum = n := by
  unfold noted
  split_ifs with h
  · exact h.symm
  · exact List.sum_singleton

/-- The detents that are recorded are those of the three units. -/
theorem Account.sum_detents (fs : List (List AxisInput)) :
    (ofFrames fs).detents.sum = ((ofFrames fs).carry .pixels).whole + ((ofFrames fs).carry .discrete).whole +
      ((ofFrames fs).carry .value120).whole := by
  induction fs using List.reverseRecOn with
  | nil => rfl
  | append_singleton fs f ih =>
    rw [ofFrames_concat]
    dsimp only [close]
    rw [List.sum_append, sum_noted, ih]
    cases frameUnit f <;> simp [Carry.put] <;> ring

end

/-- The members of the window for one axis. -/
structure AxisState where
  pending : Int32 := 0
  value120 : Bool := false
  discrete : Bool := false
  remainder : Int32 := 0
  deriving DecidableEq

/-- `kPixelsPerDetent`. -/
def pixelsPerDetent : Int32 := 15 * 256

namespace AxisState

/-- The part of `emit` for an amount that is counted in parts of a detent. -/
def divide (s : AxisState) (size : Int32) : List Int32 × AxisState :=
  let remainder := s.remainder + s.pending
  (if remainder / size = 0 then [] else [remainder / size], { remainder := remainder % size })

/-- `emit`: the detents it records and what it leaves. -/
def emit (s : AxisState) : List Int32 × AxisState :=
  if s.pending = 0 then ([], { s with value120 := false, discrete := false })
  else if s.value120 then s.divide 120
  else if s.discrete then ([s.pending], { remainder := s.remainder })
  else s.divide pixelsPerDetent

end AxisState

/-- The callbacks that the wheel depends on. The pointer is bound in some version, and it can go. -/
inductive WheelCallback
  | bindPointer (version : UInt32)
  | losePointer
  | pointerEnter (own : Bool)
  | pointerLeave
  | pointerAxis (axis : UInt32) (value : Int32)
  | pointerFrame
  | pointerAxisDiscrete (axis : UInt32) (discrete : Int32)
  | pointerAxisValue120 (axis : UInt32) (value120 : Int32)
  deriving DecidableEq

/-- The members of `OwnWindow` that the wheel has to do with. -/
structure Wheel where
  pointerInside : Bool := false
  pointerVersion : UInt32 := 0
  axes : Axis → AxisState := fun _ => {}
  recorded : List InputEvent := []

/-- What `record_input` gets. -/
def detentEvent (a : Axis) (detents : Int32) : InputEvent := ⟨.axis, a.code, detents.toUInt32⟩

namespace Wheel

def modify (w : Wheel) (a : Axis) (f : AxisState → AxisState) : Wheel :=
  { w with axes := Function.update w.axes a (f (w.axes a)) }

def emit (w : Wheel) (a : Axis) : Wheel :=
  { w with
    axes := Function.update w.axes a (w.axes a).emit.2
    recorded := w.recorded ++ (w.axes a).emit.1.map (detentEvent a) }

def pointerFrame (w : Wheel) : Wheel := (w.emit .vertical).emit .horizontal

/-- Pointers before version 5 have no frames. -/
def pointerAxis (w : Wheel) (axis : UInt32) (value : Int32) : Wheel :=
  if w.pointerInside then
    let w := w.modify (.ofCode axis) fun s => { s with pending := s.pending + value }
    if w.pointerVersion < 5 then w.pointerFrame else w
  else w

def pointerAxisDiscrete (w : Wheel) (axis : UInt32) (discrete : Int32) : Wheel :=
  if w.pointerInside = false ∨ discrete = 0 then w
  else w.modify (.ofCode axis) fun s => { s with discrete := true, pending := discrete }

def pointerAxisValue120 (w : Wheel) (axis : UInt32) (value120 : Int32) : Wheel :=
  if w.pointerInside = false ∨ value120 = 0 then w
  else w.modify (.ofCode axis) fun s => { s with pending := value120, value120 := true, discrete := true }

def step (w : Wheel) : WheelCallback → Wheel
  | .bindPointer version => { w with pointerVersion := version }
  | .losePointer => { w with pointerInside := false, pointerVersion := 0 }
  | .pointerEnter own => { w with pointerInside := own }
  | .pointerLeave => { w with pointerInside := false }
  | .pointerAxis axis value => w.pointerAxis axis value
  | .pointerFrame => w.pointerFrame
  | .pointerAxisDiscrete axis discrete => w.pointerAxisDiscrete axis discrete
  | .pointerAxisValue120 axis value120 => w.pointerAxisValue120 axis value120

end Wheel

/-- The amounts that a frame records, as the window has them. -/
def Wheel.frameDetents (w : Wheel) : List (UInt32 × UInt32) :=
  (w.axes .vertical).emit.1.map (fun d => (Axis.vertical.code, d.toUInt32)) ++
    (w.axes .horizontal).emit.1.map fun d => (Axis.horizontal.code, d.toUInt32)

/-- What the frame of a window records is what its wheel makes of the frame. -/
theorem recorded_pointerFrame {w : Wheel} {v : OwnWindow} (h : v.recorded = w.recorded) :
    (v.run (v.ops (.pointerFrame w.frameDetents))).recorded = w.pointerFrame.recorded := by
  have hrecords : w.frameDetents.map (fun d => Op.record ⟨.axis, d.1, d.2⟩) =
      ((w.axes .vertical).emit.1.map (detentEvent .vertical) ++
        (w.axes .horizontal).emit.1.map (detentEvent .horizontal)).map Op.record := by
    simp [Wheel.frameDetents, detentEvent, Function.comp_def]
  rw [OwnWindow.ops, hrecords, OwnWindow.run_records]
  simp [Wheel.pointerFrame, Wheel.emit, h]

/-- The events of the frame that is open, and of those that are over. -/
structure Frames where
  current : Axis → List AxisInput := fun _ => []
  closed : Axis → List (List AxisInput) := fun _ => []

namespace Frames

def note (fs : Frames) (a : Axis) (i : AxisInput) : Frames :=
  { fs with current := Function.update fs.current a (fs.current a ++ [i]) }

def close (fs : Frames) : Frames where
  current _ := []
  closed a := fs.closed a ++ [fs.current a]

end Frames

/-- A run with the frames that its callbacks made up. -/
structure WheelTrace where
  wheel : Wheel := {}
  frames : Frames := {}

/-- The frames after a callback. Events count while the pointer is inside the window. -/
def Wheel.framesAfter (w : Wheel) (fs : Frames) : WheelCallback → Frames
  | .pointerAxis axis value =>
    if w.pointerInside then
      if w.pointerVersion < 5 then (fs.note (.ofCode axis) ⟨.pixels, value⟩).close
      else fs.note (.ofCode axis) ⟨.pixels, value⟩
    else fs
  | .pointerFrame => fs.close
  | .pointerAxisDiscrete axis discrete =>
    if w.pointerInside = false ∨ discrete = 0 then fs else fs.note (.ofCode axis) ⟨.discrete, discrete⟩
  | .pointerAxisValue120 axis value120 =>
    if w.pointerInside = false ∨ value120 = 0 then fs else fs.note (.ofCode axis) ⟨.value120, value120⟩
  | _ => fs

def WheelTrace.step (t : WheelTrace) (c : WheelCallback) : Option WheelTrace :=
  some ⟨t.wheel.step c, t.wheel.framesAfter t.frames c⟩

/-- The detents that were recorded for an axis. -/
def detentsOn (a : Axis) (es : List InputEvent) : List ℤ :=
  es.filterMap fun e => if e.type = .axis ∧ e.a = a.code then some e.b.toInt32.toInt else none

/-! ### Where the accumulators do what they are for -/

def FitsInt32 (n : ℤ) : Prop := -2 ^ 31 ≤ n ∧ n < 2 ^ 31

instance (n : ℤ) : Decidable (FitsInt32 n) := inferInstanceAs (Decidable (_ ∧ _))

/-- Nothing is counted in the frame so far. -/
def PixelsOnly (f : List AxisInput) : Prop := ∀ i ∈ f, i.unit = .pixels

instance (f : List AxisInput) : Decidable (PixelsOnly f) := inferInstanceAs (Decidable (∀ i ∈ f, _))

/-- A frame that needs a rest finds none of another unit. -/
def Account.Closes (a : Account) (f : List AxisInput) : Prop :=
  total (frameUnit f) f ≠ 0 → frameUnit f ≠ .discrete →
    (∀ u ≠ frameUnit f, (a.carry u).rest = 0) ∧ FitsInt32 ((a.carry (frameUnit f)).rest + total (frameUnit f) f)

instance (a : Account) (f : List AxisInput) : Decidable (a.Closes f) :=
  inferInstanceAs (Decidable (_ → _ → _ ∧ _))

def Frames.Closes (fs : Frames) : Prop := ∀ a, (Account.ofFrames (fs.closed a)).Closes (fs.current a)

instance (fs : Frames) : Decidable fs.Closes :=
  inferInstanceAs (Decidable (∀ a, (Account.ofFrames (fs.closed a)).Closes (fs.current a)))

/-- Pixels come before what is counted, and nothing is counted twice in a frame; only a count in 120ths may
follow one in whole detents. -/
def WheelTrace.Separate (t : WheelTrace) : WheelCallback → Prop
  | .pointerAxis axis value =>
    let f := t.frames.current (.ofCode axis)
    t.wheel.pointerInside = true →
      (value = 0 ∨ PixelsOnly f ∧ FitsInt32 (total .pixels f + value.toInt)) ∧
        (t.wheel.pointerVersion < 5 → (t.frames.note (.ofCode axis) ⟨.pixels, value⟩).Closes)
  | .pointerFrame => t.frames.Closes
  | .pointerAxisDiscrete axis discrete =>
    t.wheel.pointerInside = true → discrete ≠ 0 → PixelsOnly (t.frames.current (.ofCode axis))
  | .pointerAxisValue120 axis value120 =>
    t.wheel.pointerInside = true → value120 ≠ 0 → ∀ i ∈ t.frames.current (.ofCode axis), i.unit ≠ .value120
  | _ => True

instance (t : WheelTrace) (c : WheelCallback) : Decidable (t.Separate c) :=
  match c with
  | .bindPointer _ => inferInstanceAs (Decidable True)
  | .losePointer => inferInstanceAs (Decidable True)
  | .pointerEnter _ => inferInstanceAs (Decidable True)
  | .pointerLeave => inferInstanceAs (Decidable True)
  | .pointerAxis _ _ => inferInstanceAs (Decidable (_ → _ ∧ (_ → _)))
  | .pointerFrame => inferInstanceAs (Decidable (Frames.Closes _))
  | .pointerAxisDiscrete _ _ => inferInstanceAs (Decidable (_ → _ → _))
  | .pointerAxisValue120 _ _ => inferInstanceAs (Decidable (_ → _ → _))

section

variable {f : List AxisInput} {s : AxisState} {acc : Account} {n : Int32}

theorem frameUnit_eq_pixels (h : PixelsOnly f) : frameUnit f = .pixels := by
  have hnone : ∀ u : ScrollUnit, u ≠ .pixels → (f.any fun i => i.unit = u) = false := by
    intro u hu
    rw [List.any_eq_false]
    intro i hi
    simpa [h i hi] using hu.symm
  simp [frameUnit, hnone]

theorem frameUnit_pixels (f : List AxisInput) (n : Int32) : frameUnit (f ++ [⟨.pixels, n⟩]) = frameUnit f := by
  simp [frameUnit]

theorem frameUnit_discrete (h : PixelsOnly f) (n : Int32) : frameUnit (f ++ [⟨.discrete, n⟩]) = .discrete := by
  have hnone : (f.any fun i => i.unit = .value120) = false := by
    rw [List.any_eq_false]
    intro i hi
    simp [h i hi]
  simp [frameUnit, hnone]

theorem frameUnit_value120 (f : List AxisInput) (n : Int32) :
    frameUnit (f ++ [⟨.value120, n⟩]) = .value120 := by
  simp [frameUnit]

/-- The state of an axis after a frame's events so far and the frames before it. -/
structure AxisState.Follows (s : AxisState) (f : List AxisInput) (acc : Account) : Prop where
  value120 : s.value120 = true ↔ frameUnit f = .value120
  discrete : frameUnit f ≠ .value120 → (s.discrete = true ↔ frameUnit f = .discrete)
  pending : s.pending.toInt = total (frameUnit f) f
  counted : frameUnit f ≠ .pixels → s.pending ≠ 0
  remainder : ∃ u, s.remainder.toInt = (acc.carry u).rest ∧ ∀ v ≠ u, (acc.carry v).rest = 0
  small : ∀ u, |(acc.carry u).rest| < u.size

theorem toInt_add_of_fits {a b : Int32} (h : FitsInt32 (a.toInt + b.toInt)) :
    (a + b).toInt = a.toInt + b.toInt := by
  rw [Int32.toInt_add]
  have hlow := h.1
  have hhigh := h.2
  exact Int.bmod_eq_of_le (by omega) (by omega)

theorem follows_pixels (h : s.Follows f acc)
    (hn : n = 0 ∨ PixelsOnly f ∧ FitsInt32 (total .pixels f + n.toInt)) :
    ({ s with pending := s.pending + n } : AxisState).Follows (f ++ [⟨.pixels, n⟩]) acc := by
  have hunit := frameUnit_pixels f n
  rcases hn with rfl | ⟨hpixels, hfits⟩
  · -- nothing is added in any unit
    have htotal : total (frameUnit f) (f ++ [⟨.pixels, 0⟩]) = total (frameUnit f) f := by
      simp [total_concat]
    refine ⟨by rw [hunit]; exact h.value120, ?_, ?_, ?_, h.remainder, h.small⟩
    · rw [hunit]
      exact h.discrete
    · rw [hunit, htotal, ← h.pending, Int32.add_zero]
    · rw [hunit, Int32.add_zero]
      exact h.counted
  · have hpx := frameUnit_eq_pixels hpixels
    have hpending := h.pending
    rw [hpx] at hpending
    refine ⟨by rw [hunit]; exact h.value120, ?_, ?_, ?_, h.remainder, h.small⟩
    · rw [hunit]
      exact h.discrete
    · rw [hunit, hpx, total_concat, if_pos rfl, ← hpending]
      refine toInt_add_of_fits ?_
      rwa [hpending]
    · intro hne
      exact absurd (hunit.trans hpx) hne

theorem follows_discrete (h : s.Follows f acc) (hn : n ≠ 0) (hpixels : PixelsOnly f) :
    ({ s with discrete := true, pending := n } : AxisState).Follows (f ++ [⟨.discrete, n⟩]) acc := by
  have hunit := frameUnit_discrete hpixels n
  have hvalue120 : s.value120 = false := by
    have hno : frameUnit f ≠ .value120 := by
      rw [frameUnit_eq_pixels hpixels]
      decide
    exact Bool.eq_false_iff.2 fun htrue => hno (h.value120.1 htrue)
  have hzero : total .discrete f = 0 := by
    refine total_eq_zero fun i hi => ?_
    rw [hpixels i hi]
    decide
  refine ⟨?_, ?_, ?_, fun _ => hn, h.remainder, h.small⟩
  · rw [hunit]
    simp [hvalue120]
  · intro _
    exact iff_of_true rfl hunit
  · rw [hunit, total_concat, hzero, if_pos rfl, Int.zero_add]

/-- A count in 120ths takes the place of whatever was pending. -/
theorem follows_value120 (h : s.Follows f acc) (hn : n ≠ 0) (hnone : ∀ i ∈ f, i.unit ≠ .value120) :
    ({ s with pending := n, value120 := true, discrete := true } : AxisState).Follows
      (f ++ [⟨.value120, n⟩]) acc := by
  have hunit := frameUnit_value120 f n
  refine ⟨iff_of_true rfl hunit, fun hne => absurd hunit hne, ?_, fun _ => hn, h.remainder, h.small⟩
  rw [hunit, total_concat, total_eq_zero hnone, if_pos rfl, Int.zero_add]

theorem follows_nothing {r : Int32} (hr : ∃ u, r.toInt = (acc.carry u).rest ∧ ∀ v ≠ u, (acc.carry v).rest = 0)
    (hsmall : ∀ u, |(acc.carry u).rest| < u.size) : ({ remainder := r } : AxisState).Follows [] acc :=
  ⟨by simp [frameUnit], fun _ => by simp [frameUnit], rfl, fun hne => absurd rfl hne, hr, hsmall⟩

theorem map_toInt_ite (d : Int32) : (if d = 0 then [] else [d]).map Int32.toInt = noted d.toInt := by
  unfold noted
  by_cases h : d = 0
  · simp [h]
  · have hne : d.toInt ≠ 0 := fun hzero => h (Int32.toInt_inj.1 hzero)
    simp [h, hne]

theorem small_close (h : s.Follows f acc) (u : ScrollUnit) : |((acc.close f).carry u).rest| < u.size := by
  dsimp only [Account.close]
  by_cases hu : u = frameUnit f
  · subst hu
    rw [Function.update_self]
    exact Carry.abs_rest_put_lt (ScrollUnit.size_pos _) _ _
  · rw [Function.update_of_ne hu]
    exact h.small u

/-- With no rest in another unit the remainder is the one of this unit. -/
theorem AxisState.Follows.remainder_eq (h : s.Follows f acc) {u : ScrollUnit}
    (hothers : ∀ v ≠ u, (acc.carry v).rest = 0) : s.remainder.toInt = (acc.carry u).rest := by
  obtain ⟨w, hw, hzero⟩ := h.remainder
  by_cases hwu : w = u
  · rwa [hwu] at hw
  · rw [hw, hothers w hwu, hzero u (Ne.symm hwu)]

theorem follows_divide (h : s.Follows f acc) (hc : acc.Closes f) {size : Int32}
    (hsize : size.toInt = (frameUnit f).size) (hunit : frameUnit f ≠ .discrete) (hpending : s.pending ≠ 0) :
    (s.divide size).2.Follows [] (acc.close f) ∧ (s.divide size).1.map Int32.toInt =
      noted (((acc.carry (frameUnit f)).rest + total (frameUnit f) f).tdiv (frameUnit f).size) := by
  have htotal : total (frameUnit f) f ≠ 0 := by
    rw [← h.pending]
    exact fun hzero => hpending (Int32.toInt_inj.1 hzero)
  obtain ⟨hothers, hfits⟩ := hc htotal hunit
  have hsum : (s.remainder + s.pending).toInt = (acc.carry (frameUnit f)).rest + total (frameUnit f) f := by
    have hremainder := h.remainder_eq hothers
    rw [toInt_add_of_fits, hremainder, h.pending]
    rwa [hremainder, h.pending]
  have hone : size ≠ -1 := by
    intro hneg
    have hpos := ScrollUnit.size_pos (frameUnit f)
    rw [← hsize, hneg] at hpos
    exact absurd hpos (by decide)
  constructor
  · refine follows_nothing ⟨frameUnit f, ?_, fun v hv => ?_⟩ (small_close h)
    · dsimp only [Account.close]
      rw [Function.update_self, Int32.toInt_mod, hsum, hsize]
      rfl
    · dsimp only [Account.close]
      rw [Function.update_of_ne hv]
      exact hothers v hv
  · dsimp only [AxisState.divide]
    rw [map_toInt_ite, Int32.toInt_div_of_ne_right _ _ hone, hsum, hsize]

/-- A frame without an amount changes no account. -/
theorem close_of_total_eq_zero (hsmall : ∀ u, |(acc.carry u).rest| < u.size) (h : total (frameUnit f) f = 0) :
    (acc.close f).carry = acc.carry ∧
      noted (((acc.carry (frameUnit f)).rest + total (frameUnit f) f).tdiv (frameUnit f).size) = [] := by
  have hput := Carry.put_zero (hsmall (frameUnit f))
  constructor
  · dsimp only [Account.close]
    rw [h, hput, Function.update_eq_self]
  · have hwhole := congrArg Carry.whole hput
    dsimp only [Carry.put] at hwhole
    rw [h, noted, if_pos (add_eq_left.1 hwhole)]

/-- A rest of whole detents is none. -/
theorem rest_discrete (hsmall : ∀ u, |(acc.carry u).rest| < u.size) : (acc.carry .discrete).rest = 0 :=
  Int.abs_lt_one_iff.1 (hsmall .discrete)

theorem follows_emit (h : s.Follows f acc) (hc : acc.Closes f) :
    s.emit.2.Follows [] (acc.close f) ∧ s.emit.1.map Int32.toInt =
      noted (((acc.carry (frameUnit f)).rest + total (frameUnit f) f).tdiv (frameUnit f).size) := by
  unfold AxisState.emit
  by_cases hpending : s.pending = 0
  · rw [if_pos hpending]
    have htotal : total (frameUnit f) f = 0 := by
      rw [← h.pending, hpending]
      rfl
    obtain ⟨hcarry, hnoted⟩ := close_of_total_eq_zero h.small htotal
    have hs : ({ s with value120 := false, discrete := false } : AxisState) = { remainder := s.remainder } := by
      rw [hpending]
    refine ⟨?_, hnoted.symm⟩
    dsimp only
    rw [hs]
    refine follows_nothing ?_ (small_close h)
    rw [hcarry]
    exact h.remainder
  · rw [if_neg hpending]
    by_cases hvalue120 : s.value120 = true
    · have hunit := h.value120.1 hvalue120
      rw [if_pos hvalue120]
      exact follows_divide h hc (by rw [hunit]; rfl) (by rw [hunit]; decide) hpending
    · have hnot : frameUnit f ≠ .value120 := fun hunit => hvalue120 (h.value120.2 hunit)
      rw [if_neg hvalue120]
      by_cases hdiscrete : s.discrete = true
      · -- the count is recorded as it is, and there is nothing to keep of it
        have hunit := (h.discrete hnot).1 hdiscrete
        have hrest := rest_discrete h.small
        have hput : ((acc.carry .discrete).put 1 (total .discrete f)).rest = (acc.carry .discrete).rest := by
          rw [hrest]
          exact Int.tmod_one _
        have hcarry : ∀ u, ((acc.close f).carry u).rest = (acc.carry u).rest := by
          intro u
          dsimp only [Account.close]
          rw [hunit]
          by_cases hu : u = .discrete
          · subst hu
            rw [Function.update_self]
            exact hput
          · rw [Function.update_of_ne hu]
        rw [if_pos hdiscrete]
        constructor
        · refine follows_nothing ?_ (small_close h)
          simp only [hcarry]
          exact h.remainder
        · have hne : s.pending.toInt ≠ 0 := fun hzero => hpending (Int32.toInt_inj.1 hzero)
          have hamount : total .discrete f = s.pending.toInt := by rw [h.pending, hunit]
          rw [hunit, hrest, hamount, ScrollUnit.size, Int.tdiv_one, Int.zero_add, noted, if_neg hne]
          rfl
      · have hunit : frameUnit f = .pixels := by
          have hno : frameUnit f ≠ .discrete := fun hunit => hdiscrete ((h.discrete hnot).2 hunit)
          cases hf : frameUnit f with
          | pixels => rfl
          | discrete => exact absurd hf hno
          | value120 => exact absurd hf hnot
        rw [if_neg hdiscrete]
        exact follows_divide h hc (by rw [hunit]; rfl) (by rw [hunit]; decide) hpending

end

section

variable {w : Wheel} {fs : Frames} {a b : Axis} {i : AxisInput}

/-- The callbacks have recorded what the frames of the axis amount to, and are ready for more of it. -/
structure Wheel.Exact (w : Wheel) (fs : Frames) (a : Axis) : Prop where
  follows : (w.axes a).Follows (fs.current a) (Account.ofFrames (fs.closed a))
  detents : detentsOn a w.recorded = (Account.ofFrames (fs.closed a)).detents

theorem detentsOn_append (a : Axis) (es es' : List InputEvent) :
    detentsOn a (es ++ es') = detentsOn a es ++ detentsOn a es' := List.filterMap_append

theorem detentsOn_self (a : Axis) (ds : List Int32) :
    detentsOn a (ds.map (detentEvent a)) = ds.map Int32.toInt := by
  induction ds with
  | nil => rfl
  | cons d ds ih =>
    rw [List.map_cons, List.map_cons, ← ih]
    simp [detentsOn, detentEvent]

theorem detentsOn_of_ne (h : b ≠ a) (ds : List Int32) : detentsOn a (ds.map (detentEvent b)) = [] := by
  refine List.filterMap_eq_nil_iff.2 fun e he => ?_
  obtain ⟨d, -, rfl⟩ := List.mem_map.1 he
  exact if_neg fun hand => h (Axis.code_injective hand.2)

theorem axes_pointerFrame (w : Wheel) (a : Axis) : w.pointerFrame.axes a = (w.axes a).emit.2 := by
  cases a <;> simp [Wheel.pointerFrame, Wheel.emit]

theorem detentsOn_pointerFrame (w : Wheel) (a : Axis) :
    detentsOn a w.pointerFrame.recorded = detentsOn a w.recorded ++ (w.axes a).emit.1.map Int32.toInt := by
  cases a with
  | vertical =>
    simp [Wheel.pointerFrame, Wheel.emit, detentsOn_append, detentsOn_self,
      detentsOn_of_ne (show Axis.horizontal ≠ .vertical by decide)]
  | horizontal =>
    simp [Wheel.pointerFrame, Wheel.emit, detentsOn_append, detentsOn_self,
      detentsOn_of_ne (show Axis.vertical ≠ .horizontal by decide)]

theorem exact_pointerFrame (h : ∀ a, w.Exact fs a) (hc : fs.Closes) (a : Axis) :
    w.pointerFrame.Exact fs.close a := by
  obtain ⟨hfollows, hemit⟩ := follows_emit (h a).follows (hc a)
  constructor
  · rw [axes_pointerFrame]
    dsimp only [Frames.close]
    rw [Account.ofFrames_concat]
    exact hfollows
  · rw [detentsOn_pointerFrame, hemit, (h a).detents]
    dsimp only [Frames.close]
    rw [Account.ofFrames_concat]
    rfl

/-- One axis takes in an event, the other keeps what it has. -/
theorem exact_modify (h : ∀ b, w.Exact fs b) {f : AxisState → AxisState}
    (ha : (f (w.axes a)).Follows (fs.current a ++ [i]) (Account.ofFrames (fs.closed a))) (b : Axis) :
    (w.modify a f).Exact (fs.note a i) b := by
  refine ⟨?_, (h b).detents⟩
  dsimp only [Wheel.modify, Frames.note]
  by_cases hb : b = a
  · subst hb
    rw [Function.update_self, Function.update_self]
    exact ha
  · rw [Function.update_of_ne hb, Function.update_of_ne hb]
    exact (h b).follows

end

section

variable {t t' : WheelTrace} {c : WheelCallback}

theorem exact_pointerAxis {axis : UInt32} {value : Int32} (h : ∀ a, t.wheel.Exact t.frames a)
    (hc : t.Separate (.pointerAxis axis value)) (a : Axis) :
    (t.wheel.step (.pointerAxis axis value)).Exact
      (t.wheel.framesAfter t.frames (.pointerAxis axis value)) a := by
  dsimp only [Wheel.step, Wheel.framesAfter, Wheel.pointerAxis]
  by_cases hin : t.wheel.pointerInside = true
  · obtain ⟨hpixels, hflush⟩ := hc hin
    rw [if_pos hin, if_pos hin]
    have hmodify := exact_modify (f := fun s => { s with pending := s.pending + value }) h
      (follows_pixels (h (.ofCode axis)).follows hpixels)
    by_cases hversion : t.wheel.pointerVersion < 5
    · rw [if_pos hversion, if_pos (show (t.wheel.modify _ _).pointerVersion < 5 from hversion)]
      exact exact_pointerFrame hmodify (hflush hversion) a
    · rw [if_neg hversion, if_neg (show ¬ (t.wheel.modify _ _).pointerVersion < 5 from hversion)]
      exact hmodify a
  · rw [if_neg hin, if_neg hin]
    exact h a

theorem exact_pointerAxisDiscrete {axis : UInt32} {discrete : Int32} (h : ∀ a, t.wheel.Exact t.frames a)
    (hc : t.Separate (.pointerAxisDiscrete axis discrete)) (a : Axis) :
    (t.wheel.step (.pointerAxisDiscrete axis discrete)).Exact
      (t.wheel.framesAfter t.frames (.pointerAxisDiscrete axis discrete)) a := by
  dsimp only [Wheel.step, Wheel.framesAfter, Wheel.pointerAxisDiscrete]
  by_cases hskip : t.wheel.pointerInside = false ∨ discrete = 0
  · rw [if_pos hskip, if_pos hskip]
    exact h a
  · rw [if_neg hskip, if_neg hskip]
    push Not at hskip
    have hpixels := hc (Bool.eq_true_of_not_eq_false hskip.1) hskip.2
    exact exact_modify h (follows_discrete (h (.ofCode axis)).follows hskip.2 hpixels) a

theorem exact_pointerAxisValue120 {axis : UInt32} {value120 : Int32} (h : ∀ a, t.wheel.Exact t.frames a)
    (hc : t.Separate (.pointerAxisValue120 axis value120)) (a : Axis) :
    (t.wheel.step (.pointerAxisValue120 axis value120)).Exact
      (t.wheel.framesAfter t.frames (.pointerAxisValue120 axis value120)) a := by
  dsimp only [Wheel.step, Wheel.framesAfter, Wheel.pointerAxisValue120]
  by_cases hskip : t.wheel.pointerInside = false ∨ value120 = 0
  · rw [if_pos hskip, if_pos hskip]
    exact h a
  · rw [if_neg hskip, if_neg hskip]
    push Not at hskip
    have hnone := hc (Bool.eq_true_of_not_eq_false hskip.1) hskip.2
    exact exact_modify h (follows_value120 (h (.ofCode axis)).follows hskip.2 hnone) a

theorem exact_step (h : ∀ a, t.wheel.Exact t.frames a) (hc : t.Separate c) (hs : t.step c = some t') :
    ∀ a, t'.wheel.Exact t'.frames a := by
  obtain rfl := Option.some.inj hs
  intro a
  cases c with
  | bindPointer version => exact ⟨(h a).follows, (h a).detents⟩
  | losePointer => exact ⟨(h a).follows, (h a).detents⟩
  | pointerEnter own => exact ⟨(h a).follows, (h a).detents⟩
  | pointerLeave => exact ⟨(h a).follows, (h a).detents⟩
  | pointerAxis axis value => exact exact_pointerAxis h hc a
  | pointerFrame => exact exact_pointerFrame h hc a
  | pointerAxisDiscrete axis discrete => exact exact_pointerAxisDiscrete h hc a
  | pointerAxisValue120 axis value120 => exact exact_pointerAxisValue120 h hc a

theorem exact_start (a : Axis) : (({} : WheelTrace).wheel).Exact {} a :=
  ⟨follows_nothing ⟨.pixels, rfl, fun _ _ => rfl⟩ fun u => (abs_zero : |(0 : ℤ)| = 0).trans_lt (ScrollUnit.size_pos u), rfl⟩

theorem exact_run {cs : List WheelCallback} (h : RunWhere WheelTrace.step WheelTrace.Separate {} cs t) :
    ∀ a, t.wheel.Exact t.frames a :=
  h.invariant exact_start fun _ _ _ hi hc hs => exact_step hi hc hs

/-- Through runs that keep the units apart, the detents of an axis are those of its frames, whose events may
come in any order, and every unit is accounted for. -/
theorem detents_of_frames {cs : List WheelCallback}
    (h : RunWhere WheelTrace.step WheelTrace.Separate {} cs t) (a : Axis) :
    detentsOn a t.wheel.recorded = (Account.ofFrames (t.frames.closed a)).detents ∧
      (∀ fs, List.Forall₂ List.Perm (t.frames.closed a) fs →
        Account.ofFrames fs = Account.ofFrames (t.frames.closed a)) ∧
      (∃ u, (t.wheel.axes a).remainder.toInt = ((Account.ofFrames (t.frames.closed a)).carry u).rest ∧
        ∀ v ≠ u, ((Account.ofFrames (t.frames.closed a)).carry v).rest = 0) ∧
      (detentsOn a t.wheel.recorded).sum = ((Account.ofFrames (t.frames.closed a)).carry .pixels).whole +
        ((Account.ofFrames (t.frames.closed a)).carry .discrete).whole +
        ((Account.ofFrames (t.frames.closed a)).carry .value120).whole ∧
      ∀ u, u.size * ((Account.ofFrames (t.frames.closed a)).carry u).whole +
          ((Account.ofFrames (t.frames.closed a)).carry u).rest =
        (((t.frames.closed a).filter fun f => frameUnit f = u).map fun f => total u f).sum := by
  have hexact := exact_run h a
  refine ⟨hexact.detents, fun fs hperm => (Account.ofFrames_perm hperm).symm, hexact.follows.remainder, ?_,
    Account.content_ofFrames _⟩
  rw [hexact.detents]
  exact Account.sum_detents _

end

/-- The detents recorded for the vertical axis, and those of its frames. -/
def verticalDetents (cs : List WheelCallback) : Option (List ℤ × List ℤ) :=
  (runList WheelTrace.step {} (.bindPointer 8 :: .pointerEnter true :: cs)).map fun t =>
    (detentsOn .vertical t.wheel.recorded, (Account.ofFrames (t.frames.closed .vertical)).detents)

/-- Two touches of a pad, and a click of the wheel between them. -/
def clickBetweenTouches : List WheelCallback :=
  [.bindPointer 8, .pointerEnter true, .pointerAxis 0 1920, .pointerFrame,
    .pointerAxis 0 3840, .pointerAxisDiscrete 0 1, .pointerFrame, .pointerAxis 0 1920, .pointerFrame]

theorem detents_of_frames_click :
    ∃ t, RunWhere WheelTrace.step WheelTrace.Separate {} clickBetweenTouches t ∧
      detentsOn .vertical t.wheel.recorded = [1, 1] := by
  have hany : (runList (checked WheelTrace.step WheelTrace.Separate) {} clickBetweenTouches).any
      (fun t => (Account.ofFrames (t.frames.closed .vertical)).detents = [1, 1]) = true := by decide
  obtain ⟨t, hrun, hdetents⟩ := (Option.any_eq_true _ _).1 hany
  exact ⟨t, runWhere_of_checked hrun,
    (detents_of_frames (runWhere_of_checked hrun) .vertical).1.trans (of_decide_eq_true hdetents)⟩

/-- The click announced before its distance is taken for 3841 of them, and 100 parts of a pixel serve for the
120ths that are missing to a detent. -/
theorem order_and_units_matter :
    verticalDetents [.pointerAxisDiscrete 0 1, .pointerAxis 0 3840, .pointerFrame] = some ([3841], [1]) ∧
      verticalDetents [.pointerAxis 0 3840, .pointerAxisDiscrete 0 1, .pointerFrame] = some ([1], [1]) ∧
      verticalDetents [.pointerAxis 0 100, .pointerFrame, .pointerAxisValue120 0 20, .pointerFrame] =
        some ([1], []) := by
  decide

end VkRemote.Server
