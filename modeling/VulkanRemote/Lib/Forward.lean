import VulkanRemote.Lib.Run

/-! Calls that a client forwards to a server over a channel which keeps their order, against the same calls made
where the service is. The client goes on after each call, so the server lags behind. -/

namespace VkRemote.Lib

variable {σ κ ρ τ β ω : Type*}

/-- What calls do to a service, and what they answer. -/
structure Service (σ κ ρ : Type*) where
  call : σ → κ → σ × ρ

namespace Service

variable (S : Service σ κ ρ)

/-- The state after some calls, and their answers. -/
def run : σ → List κ → σ × List ρ
  | s, [] => (s, [])
  | s, c :: cs => ((run (S.call s c).1 cs).1, (S.call s c).2 :: (run (S.call s c).1 cs).2)

theorem run_append (s : σ) (cs ds : List κ) :
    S.run s (cs ++ ds) = ((S.run (S.run s cs).1 ds).1, (S.run s cs).2 ++ (S.run (S.run s cs).1 ds).2) := by
  induction cs generalizing s with
  | nil => rfl
  | cons c cs ih => simp only [List.cons_append, run, ih]

/-- Each call is made in a state that admits it. -/
def Admits (valid : σ → κ → Prop) (s : σ) (cs : List κ) : Prop :=
  ∀ before c after, cs = before ++ c :: after → valid (S.run s before).1 c

variable {S} {valid : σ → κ → Prop} {s : σ}

theorem Admits.snoc {cs : List κ} {c : κ} (h : S.Admits valid s cs) (hc : valid (S.run s cs).1 c) :
    S.Admits valid s (cs ++ [c]) := by
  intro before d after heq
  rcases List.eq_nil_or_concat after with rfl | ⟨after, e, rfl⟩
  · obtain ⟨rfl, hlast⟩ := List.append_inj' heq rfl
    obtain rfl := List.singleton_inj.1 hlast
    exact hc
  · rw [List.concat_eq_append, ← List.cons_append, ← List.append_assoc] at heq
    exact h before d after (List.append_inj' heq rfl).1

end Service

/-- The calls that were made, those on their way with what was sent for them, and the answered ones. -/
structure Forwarded (κ β τ ω : Type*) where
  sent : List κ := []
  channel : List (κ × β) := []
  server : τ
  replies : List (κ × ω) := []

namespace Forwarded

inductive Event (κ : Type*)
  | send (c : κ)
  | serve

variable (encode : κ → Option β) (serve : τ → β → τ × ω)

def step (f : Forwarded κ β τ ω) : Event κ → Option (Forwarded κ β τ ω)
  | .send c => (encode c).map fun b => { f with sent := f.sent ++ [c], channel := f.channel ++ [(c, b)] }
  | .serve =>
    match f.channel with
    | [] => none
    | (c, b) :: rest =>
      some { f with channel := rest, server := (serve f.server b).1,
                    replies := f.replies ++ [(c, (serve f.server b).2)] }

/-- Serving a call does to the server what the call does to the service, and the client reads its answer out of the
reply. -/
structure Mirrors (S : Service σ κ ρ) (valid : σ → κ → Prop) (decode : κ → ω → ρ) (R : σ → τ → Prop) : Prop where
  serve : ∀ s t c b, R s t → valid s c → encode c = some b →
    R (S.call s c).1 (serve t b).1 ∧ decode c (serve t b).2 = (S.call s c).2

/-- What was sent is what was answered and what is on its way, and the server is where the answered calls lead. -/
structure Behind (S : Service σ κ ρ) (decode : κ → ω → ρ) (R : σ → τ → Prop) (s : σ) (f : Forwarded κ β τ ω) :
    Prop where
  order : f.sent = f.replies.map Prod.fst ++ f.channel.map Prod.fst
  encoded : ∀ p ∈ f.channel, encode p.1 = some p.2
  server : R (S.run s (f.replies.map Prod.fst)).1 f.server
  answers : f.replies.map (fun p => decode p.1 p.2) = (S.run s (f.replies.map Prod.fst)).2

section

variable {encode : κ → Option β} {serve : τ → β → τ × ω} {S : Service σ κ ρ} {valid : σ → κ → Prop}
  {decode : κ → ω → ρ} {R : σ → τ → Prop} {s : σ} {t : τ}

end

end Forwarded

end VkRemote.Lib
