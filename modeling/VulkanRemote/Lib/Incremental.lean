import Mathlib.Data.List.Basic

/-! Readers of a stream that arrives in pieces. A reader takes a value off the front of what is there, or asks
for more, or gives up; an incremental one finds in part of a stream what it finds in the whole of it. -/

namespace VkRemote.Lib

variable {α β γ τ : Type*}

/-- What a reader finds at the front of a buffer of `τ`s, and what it leaves there. -/
inductive Taken (τ α : Type*)
  | needMoreData
  | ok (out : α) (rest : List τ)
  | malformed
  deriving DecidableEq

namespace Taken

def bind : Taken τ α → (α → List τ → Taken τ β) → Taken τ β
  | .needMoreData, _ => .needMoreData
  | .ok out rest, f => f out rest
  | .malformed, _ => .malformed

/-- The same result with more of the stream behind what was read. -/
def extend (more : List τ) : Taken τ α → Taken τ α
  | .needMoreData => .needMoreData
  | .ok out rest => .ok out (rest ++ more)
  | .malformed => .malformed

@[simp] theorem bind_ok (out : α) (rest : List τ) (f : α → List τ → Taken τ β) :
    (Taken.ok out rest).bind f = f out rest := rfl

theorem bind_eq_ok {r : Taken τ α} {f : α → List τ → Taken τ β} {out : β} {rest : List τ}
    (h : r.bind f = .ok out rest) : ∃ a rest', r = .ok a rest' ∧ f a rest' = .ok out rest := by
  cases r with
  | needMoreData => cases h
  | ok a rest' => exact ⟨a, rest', rfl, h⟩
  | malformed => cases h

end Taken

/-- What the reader finds it still finds when more has arrived. -/
def Incremental (read : List τ → Taken τ α) : Prop :=
  ∀ data more, read data ≠ .needMoreData → read (data ++ more) = (read data).extend more

theorem incremental_ok (a : α) : Incremental fun data : List τ => Taken.ok a data := fun _ _ _ => rfl

theorem incremental_malformed : Incremental fun _ : List τ => (.malformed : Taken τ α) := fun _ _ _ => rfl

theorem Incremental.bind {read : List τ → Taken τ α} {next : α → List τ → Taken τ β} (h : Incremental read)
    (hnext : ∀ a, Incremental (next a)) : Incremental fun data => (read data).bind next := by
  intro data more hread
  dsimp only at hread ⊢
  rcases hr : read data with _ | ⟨a, rest⟩ | _
  · rw [hr] at hread
    exact absurd rfl hread
  · rw [hr] at hread
    rw [h data more (by rw [hr]; rintro ⟨⟩), hr]
    exact hnext a rest more hread
  · rw [h data more (by rw [hr]; rintro ⟨⟩), hr]
    rfl

theorem Incremental.ite {read read' : List τ → Taken τ α} {c : Prop} [Decidable c] (h : Incremental read)
    (h' : Incremental read') : Incremental fun data => if c then read data else read' data := by
  by_cases hc : c
  · simpa [hc] using h
  · simpa [hc] using h'

/-- The next `n` of the stream, as they are. -/
def takeExactly (n : ℕ) (data : List τ) : Taken τ (List τ) :=
  if data.length < n then .needMoreData else .ok (data.take n) (data.drop n)

theorem incremental_takeExactly (n : ℕ) : Incremental (takeExactly (τ := τ) n) := by
  intro data more h
  unfold takeExactly at h ⊢
  by_cases hlen : data.length < n
  · rw [if_pos hlen] at h
    exact absurd rfl h
  · have hle : n ≤ data.length := Nat.le_of_not_lt hlen
    rw [if_neg (by rw [List.length_append]; omega), if_neg hlen, List.take_append_of_le_length hle,
      List.drop_append_of_le_length hle]
    rfl

theorem takeExactly_append {n : ℕ} {data : List τ} (h : data.length = n) (rest : List τ) :
    takeExactly n (data ++ rest) = .ok data rest := by
  rw [takeExactly, if_neg (by rw [List.length_append]; omega), List.take_left' h, List.drop_left' h]

section Stream

variable {read : List τ → Taken τ α} {enc : α → List τ} {xs : List α} {here coming rest : List τ}

/-- The reader takes back what `enc` puts in front of anything, or gives up on it. -/
def Reads (read : List τ → Taken τ α) (enc : α → List τ) (x : α) : Prop :=
  enc x ≠ [] ∧ ∀ rest, read (enc x ++ rest) = .ok x rest ∨ read (enc x ++ rest) = .malformed

/-- Of a stream of encoded values, part of which has arrived, a reader takes the first value. -/
theorem Incremental.take_stream (hread : Incremental read) (hnil : read [] = .needMoreData)
    (hxs : ∀ x ∈ xs, Reads read enc x) (hstream : here ++ coming = xs.flatMap enc) {x : α}
    (h : read here = .ok x rest) : ∃ ys, xs = x :: ys ∧ rest ++ coming = ys.flatMap enc := by
  have hwhole := hread here coming (by rw [h]; rintro ⟨⟩)
  rw [hstream, h] at hwhole
  cases xs with
  | nil => cases hnil.symm.trans hwhole
  | cons y ys =>
    rw [List.flatMap_cons] at hwhole
    obtain hok | hbad := (hxs y List.mem_cons_self).2 (ys.flatMap enc)
    · obtain ⟨rfl, hrest⟩ := Taken.ok.inj (hok.symm.trans hwhole)
      exact ⟨ys, rfl, hrest.symm⟩
    · cases hbad.symm.trans hwhole

end Stream

/-- An incremental reader that takes something off the stream with every value. -/
structure FrameReader (τ α : Type*) where
  read : List τ → Taken τ α
  incremental : Incremental read
  shrinks : ∀ data a rest, read data = .ok a rest → rest.length < data.length

/-- What a reader got out of a buffer, what it left there, and whether it gave up. -/
structure Drained (τ α : Type*) where
  values : List α := []
  rest : List τ
  malformed : Bool := false
  deriving DecidableEq

namespace Drained

def after (values : List α) (d : Drained τ α) : Drained τ α := { d with values := values ++ d.values }

end Drained

namespace FrameReader

variable (r : FrameReader τ α)

/-- One value after the other, until the reader asks for more or gives up. -/
def drain (data : List τ) : Drained τ α :=
  match _h : r.read data with
  | .needMoreData => { rest := data }
  | .malformed => { rest := data, malformed := true }
  | .ok a rest => (drain rest).after [a]
termination_by data.length
decreasing_by exact r.shrinks data a rest _h

/-- The buffer is drained as often as a chunk arrives. -/
def receive : List τ → List (List τ) → Drained τ α
  | buffer, [] => { rest := buffer }
  | buffer, chunk :: chunks =>
    let d := r.drain (buffer ++ chunk)
    if d.malformed then d else (receive d.rest chunks).after d.values

variable {r} {data here coming : List τ}

theorem drain_needMoreData (h : r.read data = .needMoreData) : r.drain data = { rest := data } := by
  rw [drain]
  split
  · rfl
  · next h' => exact nomatch h.symm.trans h'
  · next h' => exact nomatch h.symm.trans h'

theorem drain_malformed (h : r.read data = .malformed) :
    r.drain data = { rest := data, malformed := true } := by
  rw [drain]
  split
  · next h' => exact nomatch h.symm.trans h'
  · rfl
  · next h' => exact nomatch h.symm.trans h'

theorem drain_ok {a : α} {rest : List τ} (h : r.read data = .ok a rest) :
    r.drain data = (r.drain rest).after [a] := by
  rw [drain]
  split
  · next h' => exact nomatch h.symm.trans h'
  · next h' => exact nomatch h.symm.trans h'
  · next h' =>
    obtain ⟨rfl, rfl⟩ := Taken.ok.inj (h.symm.trans h')
    rfl

variable {enc : α → List τ} {xs : List α}

/-- The reader takes back what `enc` puts in front of anything. -/
def Exact (r : FrameReader τ α) (enc : α → List τ) (x : α) : Prop :=
  ∀ rest, r.read (enc x ++ rest) = .ok x rest

/-- Of a stream of encoded values, part of which has arrived, the reader takes a first part and waits. -/
theorem drain_stream (hnil : r.read [] = .needMoreData) (hxs : ∀ x ∈ xs, r.Exact enc x)
    (hstream : here ++ coming = xs.flatMap enc) :
    ∃ ys zs rest, xs = ys ++ zs ∧ r.drain here = { values := ys, rest } ∧
      r.read rest = .needMoreData ∧ rest ++ coming = zs.flatMap enc := by
  induction xs generalizing here with
  | nil =>
    obtain ⟨rfl, rfl⟩ := List.append_eq_nil_iff.1 hstream
    exact ⟨[], [], [], rfl, drain_needMoreData hnil, hnil, rfl⟩
  | cons x xs ih =>
    have hwhole : r.read (here ++ coming) = .ok x (xs.flatMap enc) := by
      rw [hstream, List.flatMap_cons]
      exact hxs x List.mem_cons_self _
    by_cases hwait : r.read here = .needMoreData
    · exact ⟨[], x :: xs, here, rfl, drain_needMoreData hwait, hwait, hstream⟩
    · have hext := r.incremental here coming hwait
      rw [hwhole] at hext
      cases hread : r.read here with
      | needMoreData => exact absurd hread hwait
      | malformed =>
        rw [hread] at hext
        exact nomatch hext
      | ok y rest =>
        rw [hread] at hext
        obtain ⟨rfl, hrest⟩ := Taken.ok.inj hext
        obtain ⟨ys, zs, left, rfl, hdrain, hleft, hcoming⟩ :=
          ih (fun x hx => hxs x (List.mem_cons_of_mem _ hx)) hrest.symm
        refine ⟨x :: ys, zs, left, rfl, ?_, hleft, hcoming⟩
        rw [drain_ok hread, hdrain]
        rfl

/-- However the stream is cut into chunks, the values come out in order and nothing is left. -/
theorem receive_stream (hnil : r.read [] = .needMoreData) {chunks : List (List τ)} {buffer : List τ}
    (hxs : ∀ x ∈ xs, r.Exact enc x) (hbuffer : r.read buffer = .needMoreData)
    (hstream : buffer ++ chunks.flatten = xs.flatMap enc) :
    r.receive buffer chunks = { values := xs, rest := [] } := by
  induction chunks generalizing buffer xs with
  | nil =>
    rw [List.flatten_nil, List.append_nil] at hstream
    cases xs with
    | nil => rw [hstream]; rfl
    | cons x xs =>
      rw [hstream, List.flatMap_cons, hxs x List.mem_cons_self] at hbuffer
      exact nomatch hbuffer
  | cons chunk chunks ih =>
    rw [List.flatten_cons, ← List.append_assoc] at hstream
    obtain ⟨ys, zs, rest, rfl, hdrain, hrest, hcoming⟩ := drain_stream hnil hxs hstream
    have hlater := ih (fun x hx => hxs x (List.mem_append_right _ hx)) hrest hcoming
    simp only [receive, hdrain, Bool.false_eq_true, if_false, hlater]
    rfl

/-- The reader gives up on no part of a stream of encoded values. -/
theorem not_malformed_of_prefix (hnil : r.read [] = .needMoreData) (hxs : ∀ x ∈ xs, r.Exact enc x)
    (hpart : here <+: xs.flatMap enc) : r.read here ≠ .malformed := by
  intro hbad
  obtain ⟨coming, hstream⟩ := hpart
  obtain ⟨ys, zs, rest, -, hdrain, -, -⟩ := drain_stream hnil hxs hstream
  rw [drain_malformed hbad] at hdrain
  exact nomatch congrArg Drained.malformed hdrain

end FrameReader

end VkRemote.Lib
