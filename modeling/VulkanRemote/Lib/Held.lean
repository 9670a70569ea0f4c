import Mathlib.Data.Finset.Basic
import Mathlib.Data.Finset.Lattice.Lemmas
import Mathlib.Data.Finset.SDiff

/-! What is held after a sequence of presses and releases. -/

namespace VkRemote.Lib

variable {α : Type*} [DecidableEq α]

/-- A press of a thing, or its release. -/
structure Edge (α : Type*) where
  thing : α
  down : Bool
  deriving DecidableEq

def hold (s : Finset α) (e : Edge α) : Finset α := if e.down then insert e.thing s else s.erase e.thing

def held (es : List (Edge α)) : Finset α := es.foldl hold ∅

@[simp] theorem held_nil : held ([] : List (Edge α)) = ∅ := rfl

theorem held_append (es more : List (Edge α)) : held (es ++ more) = more.foldl hold (held es) :=
  List.foldl_append

theorem held_concat (es : List (Edge α)) (e : Edge α) : held (es ++ [e]) = hold (held es) e := by
  rw [held_append, List.foldl_cons, List.foldl_nil]

theorem hold_down (s : Finset α) (a : α) : hold s ⟨a, true⟩ = insert a s := rfl

theorem hold_up (s : Finset α) (a : α) : hold s ⟨a, false⟩ = s.erase a := rfl

/-- A press of what is held changes nothing. -/
theorem hold_of_mem {s : Finset α} {a : α} (h : a ∈ s) : hold s ⟨a, true⟩ = s := Finset.insert_eq_of_mem h

theorem foldl_hold_up (l : List α) (s : Finset α) :
    (l.map fun a => (⟨a, false⟩ : Edge α)).foldl hold s = s \ l.toFinset := by
  induction l generalizing s with
  | nil => simp
  | cons a l ih =>
    rw [List.map_cons, List.foldl_cons, ih, hold_up, List.toFinset_cons]
    ext b
    simp only [Finset.mem_sdiff, Finset.mem_erase, Finset.mem_insert]
    tauto

end VkRemote.Lib
