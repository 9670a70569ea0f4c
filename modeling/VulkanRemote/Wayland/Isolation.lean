import VulkanRemote.Lib.Run
import VulkanRemote.Wayland.ServerHalf

/-! One link after another: what the server half carries over from a link that was dropped to the next one. -/

namespace VkRemote.Wayland.WaylandProxy

open Lib

/-- What a new link finds in a server half that has just started. -/
structure Fresh (s : WaylandProxy) : Prop where
  objects : s.objects = displayOnly
  ids : s.nextServerSideId = firstServerSideId
  received : s.rxBuf = []
  toSend : s.txBuf = []

/-- Whatever went out over a link tells of an object that came with that link. -/
def Isolated (s : WaylandProxy) : Prop := ∀ e ∈ s.sent, e.2.origin = e.1

/-- Only the display is left, in the table and in libwayland, and no server-side id is used up. -/
structure Bare (s : WaylandProxy) : Prop where
  objects : s.objects = displayOnly
  ids : s.nextServerSideId = firstServerSideId
  proxies : ∀ i, i ≠ 0 → s.proxies i = none

/-- The request can be carried out. -/
def Applies (t : Tables) (s : WaylandProxy) (frame : LinkFrame) (created : Bool) : Prop :=
  8 ≤ frame.wireBytes.length ∧ (sizeField frame.wireBytes).toNat = frame.wireBytes.length ∧
    ∃ entry, s.objects (objectField frame.wireBytes) = some entry ∧
      (entry.proxy = none ∨ ∃ proxy spec args, Understood t s frame entry proxy spec args ∧
        (created = true ∨ ∀ g, gather t s proxy args = .ok g → g.interface = none))

/-- The event can be put into a frame. -/
def Packs (t : Tables) (s : WaylandProxy) (event : Event) : Prop :=
  ∀ proxy, s.proxies event.target = some proxy → ∃ spec, t.event proxy.interface event.opcode = some spec ∧
    (encodeBody (eventArgs spec.args event.args proxy.origin s).1).length ≤ 0xffff

/-- An action either gives no reason to drop the link, or finds nothing left of it to clear away. -/
def Tidy (t : Tables) (s : WaylandProxy) : Action → Prop
  | .dispatch event => Packs t s event ∨ s.Bare
  | .accept => True
  | .recv data => data.isSome ∨ s.Bare
  | .frame created =>
    match takeLinkFrame s.rxBuf with
    | .needMoreData => True
    | .malformed => s.Bare
    | .ok frame rest => Applies t { s with rxBuf := rest } frame created ∨ s.Bare
  | .send n => 0 < n.getD 0 ∨ s.Bare

section

variable {t : Tables} {s s' : WaylandProxy}

theorem handleRequestFrame_understood {frame : LinkFrame} {entry : ObjectEntry} {proxy : ℕ} {spec : MessageSpec}
    {args : List DecodedArg} (u : Understood t s frame entry proxy spec args) (created : Bool) :
    handleRequestFrame t s frame created =
      match gather t s proxy args with
      | .error stub => (none, { s with objects := Function.update s.objects stub.1 (some stub.2) })
      | .ok g => s.marshal (objectField frame.wireBytes) proxy (opcodeField frame.wireBytes) spec.isDestructor g
          created := by
  have hfds : ¬ (frame.fdBlobs ≠ [] ∨ 0 < countFdArgs spec) := by
    rw [u.noFds.1, u.noFds.2]
    simp
  unfold handleRequestFrame
  dsimp only
  rw [if_neg (Nat.not_lt.2 u.long), if_neg (not_not.2 u.sized), u.found]
  dsimp only
  rw [u.live]
  dsimp only
  rw [u.known]
  dsimp only
  rw [u.decoded]
  dsimp only
  rw [if_neg hfds]
  rfl

theorem marshal_fst {objectId : UInt32} {proxy : ℕ} {opcode : UInt16} {isDestructor created : Bool} {g : Gathered}
    (h : created = true ∨ g.interface = none) :
    (s.marshal objectId proxy opcode isDestructor g created).1 = none := by
  unfold marshal
  dsimp only
  rcases hi : g.interface with _ | interface
  · rfl
  · rw [hi] at h
    rw [h.resolve_right (by simp)]
    rfl

theorem handleRequestFrame_of_applies {frame : LinkFrame} {created : Bool} (h : Applies t s frame created) :
    (handleRequestFrame t s frame created).1 = none := by
  obtain ⟨hlong, hsize, entry, hentry, hstub | ⟨proxy, spec, args, u, hcreated⟩⟩ := h
  · unfold handleRequestFrame
    dsimp only
    rw [if_neg (Nat.not_lt.2 hlong), if_neg (not_not.2 hsize), hentry]
    dsimp only
    rw [hstub]
  · rw [handleRequestFrame_understood u]
    rcases hg : gather t s proxy args with stub | g
    · rfl
    · exact marshal_fst (hcreated.imp_right fun h => h g hg)

/-- The step is one within a link: it sends nothing, and new proxies are for objects of link `origin`. -/
structure Within (origin : ℕ) (s s' : WaylandProxy) : Prop where
  linked : s'.linked = s.linked
  links : s'.links = s.links
  sent : s'.sent = s.sent
  toSend : s'.txBuf = s.txBuf
  made : s.made ≤ s'.made
  proxies : ∀ i p, s'.proxies i = some p → s.proxies i = some p ∨ s.made ≤ i ∧ p.origin = origin

theorem Within.refl (origin : ℕ) (s : WaylandProxy) : Within origin s s :=
  ⟨rfl, rfl, rfl, rfl, le_rfl, fun _ _ h => .inl h⟩

theorem Within.trans {origin : ℕ} {s₁ s₂ s₃ : WaylandProxy} (h : Within origin s₁ s₂) (h' : Within origin s₂ s₃) :
    Within origin s₁ s₃ where
  linked := h'.linked.trans h.linked
  links := h'.links.trans h.links
  sent := h'.sent.trans h.sent
  toSend := h'.toSend.trans h.toSend
  made := h.made.trans h'.made
  proxies i p hp := by
    rcases h'.proxies i p hp with hp | ⟨hi, ho⟩
    · exact h.proxies i p hp
    · exact .inr ⟨h.made.trans hi, ho⟩

theorem within_register (s : WaylandProxy) (id : UInt32) (interface : Name) (version : UInt32) (origin : ℕ)
    (registered : Name) : Within origin s (s.register id interface version origin registered) := by
  refine ⟨rfl, rfl, rfl, rfl, Nat.le_succ _, fun i p hp => ?_⟩
  simp only [register, Function.update_apply] at hp
  split at hp
  · next hi =>
    obtain rfl := Option.some.inj hp
    exact .inr ⟨hi.ge, rfl⟩
  · exact .inl hp

theorem within_erase (origin : ℕ) (s : WaylandProxy) (id : UInt32) : Within origin s (s.erase id) :=
  ⟨rfl, rfl, rfl, rfl, le_rfl, fun _ _ h => .inl h⟩

theorem called_proxies {call : MarshalCall} {i : ℕ} {p : Proxy} (h : (s.called call).proxies i = some p) :
    s.proxies i = some p := by
  simp only [called] at h
  split at h
  · rw [Function.update_apply] at h
    split at h
    · cases h
    · exact h
  · exact h

theorem within_called (origin : ℕ) (s : WaylandProxy) (call : MarshalCall) : Within origin s (s.called call) :=
  ⟨rfl, rfl, rfl, rfl, le_rfl, fun _ _ h => .inl (called_proxies h)⟩

theorem bare_called (hb : s.Bare) (call : MarshalCall) : (s.called call).Bare where
  objects := hb.objects
  ids := hb.ids
  proxies i hi := by
    rcases hp : (s.called call).proxies i with _ | p
    · rfl
    · cases (hb.proxies i hi).symm.trans (called_proxies hp)

theorem Within.erase_if {origin : ℕ} (h : Within origin s s') (c : Prop) [Decidable c] (id : UInt32) :
    Within origin s (if c then s'.erase id else s') := by
  split
  · exact h.trans (within_erase ..)
  · exact h

theorem within_eventArg (spec : ArgSpec) (arg : WlArgument) (origin : ℕ) (s : WaylandProxy) :
    Within origin s (eventArg spec arg origin s).2.2 := by
  unfold eventArg
  cases spec.type with
  | newId =>
    have hnext : Within origin s { s with nextServerSideId := s.nextServerSideId + 1 } :=
      ⟨rfl, rfl, rfl, rfl, le_rfl, fun _ _ h => .inl h⟩
    exact hnext.trans (within_register ..)
  | _ => exact .refl _ _

theorem within_eventArgs (specs : List ArgSpec) (args : List WlArgument) (origin : ℕ) (s : WaylandProxy) :
    Within origin s (eventArgs specs args origin s).2.2 := by
  induction specs generalizing args s with
  | nil => exact .refl _ _
  | cons spec specs ih => exact (within_eventArg ..).trans (ih _ _)

theorem within_marshal (s : WaylandProxy) (objectId : UInt32) (proxy : ℕ) (opcode : UInt16)
    (isDestructor : Bool) (g : Gathered) (created : Bool) :
    Within s.links s (s.marshal objectId proxy opcode isDestructor g created).2 := by
  have hcall := within_called s.links s ⟨proxy, opcode, g.interface, g.version, isDestructor, g.args⟩
  unfold marshal
  dsimp only
  split
  · exact hcall.erase_if _ _
  · split
    · exact (hcall.trans (within_register ..)).erase_if _ _
    · exact hcall

theorem within_handleRequestFrame (t : Tables) (s : WaylandProxy) (frame : LinkFrame) (created : Bool) :
    Within s.links s (handleRequestFrame t s frame created).2 := by
  have h := handles t s frame created
  generalize handleRequestFrame t s frame created = out at h
  obtain ⟨r, s'⟩ := out
  cases h with
  | refused r => exact .refl _ _
  | onStub => exact (Within.refl _ _).erase_if _ _
  | makesStub => exact ⟨rfl, rfl, rfl, rfl, le_rfl, fun _ _ h => .inl h⟩
  | marshals => exact within_marshal ..

/-- A request that is refused registers nothing. -/
theorem bare_of_refused {frame : LinkFrame} {created : Bool} (hb : s.Bare)
    (h : (handleRequestFrame t s frame created).1 ≠ none) : (handleRequestFrame t s frame created).2.Bare := by
  have hh := handles t s frame created
  generalize handleRequestFrame t s frame created = out at h hh
  obtain ⟨r, s'⟩ := out
  cases hh with
  | refused => exact hb
  | onStub => exact absurd rfl h
  | makesStub => exact absurd rfl h
  | marshals =>
    unfold marshal at h ⊢
    dsimp only at h ⊢
    split at h
    · exact absurd rfl h
    · split at h
      · exact absurd rfl h
      · next hcreated =>
        rw [if_neg hcreated]
        exact bare_called hb _

/-- Every proxy but the display's belongs to the current link, and without a link there is none. -/
structure Inv (s : WaylandProxy) : Prop where
  display : ∀ p, s.proxies 0 = some p → p.id = none
  owned : ∀ i p, i ≠ 0 → s.proxies i = some p → p.origin = s.links
  numbered : 0 < s.made
  queued : ∀ b ∈ s.txBuf, b.origin = s.links
  sent : Isolated s
  idle : s.linked = false → s.Bare ∧ s.rxBuf = [] ∧ s.txBuf = []

theorem start_proxies {i : ℕ} (hi : i ≠ 0) : start.proxies i = none := by simp [start, hi]

theorem inv_start : Inv start where
  display p hp := by
    obtain rfl := Option.some.inj hp
    rfl
  owned i p hi hp := by
    cases (start_proxies hi).symm.trans hp
  numbered := Nat.one_pos
  queued b hb := by cases hb
  sent e he := by cases he
  idle _ := ⟨⟨rfl, rfl, fun _ => start_proxies⟩, rfl, rfl⟩

theorem Inv.within (inv : Inv s) (h : Within s.links s s') (hlinked : s.linked = true) : Inv s' where
  display p hp := by
    rcases h.proxies 0 p hp with hp | ⟨hi, -⟩
    · exact inv.display p hp
    · exact absurd hi (Nat.not_le.2 inv.numbered)
  owned i p hi hp := by
    rw [h.links]
    rcases h.proxies i p hp with hp | ⟨-, ho⟩
    · exact inv.owned i p hi hp
    · exact ho
  numbered := inv.numbered.trans_le h.made
  queued b hb := by
    rw [h.links]
    exact inv.queued b (h.toSend ▸ hb)
  sent e he := inv.sent e (h.sent ▸ he)
  idle hl := absurd ((h.linked.symm.trans hl).symm.trans hlinked) Bool.false_ne_true

theorem inv_dropLink (inv : Inv s) (hb : s.Bare) : Inv s.dropLink where
  display := inv.display
  owned := inv.owned
  numbered := inv.numbered
  queued b hb := by cases hb
  sent := inv.sent
  idle _ := ⟨⟨hb.objects, hb.ids, hb.proxies⟩, rfl, rfl⟩

theorem inv_acceptLink (inv : Inv s) (hb : s.Bare) (htx : s.txBuf = []) : Inv s.acceptLink where
  display := inv.display
  owned i p hi hp := by cases (hb.proxies i hi).symm.trans hp
  numbered := inv.numbered
  queued b hb := by
    rw [acceptLink, htx] at hb
    cases hb
  sent := inv.sent
  idle hl := by cases hl

theorem inv_queue (inv : Inv s) (hl : s.linked = true) {origin : ℕ} (horigin : origin = s.links)
    (bytes : List UInt8) : Inv { s with txBuf := s.txBuf ++ bytes.map (⟨·, origin⟩) } where
  display := inv.display
  owned := inv.owned
  numbered := inv.numbered
  queued b hb := by
    rcases List.mem_append.1 hb with hb | hb
    · exact inv.queued b hb
    · obtain ⟨byte, -, rfl⟩ := List.mem_map.1 hb
      exact horigin
  sent := inv.sent
  idle hl' := absurd (hl'.symm.trans hl) Bool.false_ne_true

theorem inv_send (inv : Inv s) (hl : s.linked = true) (n : ℕ) :
    Inv { s with txBuf := s.txBuf.drop n, sent := s.sent ++ (s.txBuf.take n).map (s.links, ·) } where
  display := inv.display
  owned := inv.owned
  numbered := inv.numbered
  queued b hb := inv.queued b (List.mem_of_mem_drop hb)
  sent e he := by
    rcases List.mem_append.1 he with he | he
    · exact inv.sent e he
    · obtain ⟨b, hb, rfl⟩ := List.mem_map.1 he
      exact inv.queued b (List.mem_of_mem_take hb)
  idle hl' := absurd (hl'.symm.trans hl) Bool.false_ne_true

/-- Where only the display is left, no dispatcher can run. -/
theorem Inv.not_bare (inv : Inv s) {i : ℕ} {p : Proxy} {id : UInt32} (hp : s.proxies i = some p)
    (hid : p.id = some id) : i ≠ 0 ∧ ¬ s.Bare := by
  have hi : i ≠ 0 := by
    rintro rfl
    cases (inv.display p hp).symm.trans hid
  exact ⟨hi, fun hb => by cases (hb.proxies i hi).symm.trans hp⟩

theorem inv_genericDispatcher (inv : Inv s) {event : Event} {p : Proxy} {id : UInt32}
    (hp : s.proxies event.target = some p) (hid : p.id = some id) (ht : Tidy t s (.dispatch event)) :
    Inv (s.genericDispatcher t p id event) := by
  obtain ⟨hi, hbare⟩ := inv.not_bare hp hid
  obtain ⟨spec, hspec, hsize⟩ := ht.resolve_right hbare p hp
  have hlinked : s.linked = true := by
    rcases Bool.eq_false_or_eq_true s.linked with hl | hl
    · exact hl
    · exact absurd (inv.idle hl).1 hbare
  have horigin : p.origin = s.links := inv.owned _ p hi hp
  have hwithin := within_eventArgs spec.args event.args p.origin s
  unfold genericDispatcher
  rw [hspec]
  dsimp only
  split
  · next henc =>
    unfold encodeMessage at henc
    rw [if_neg (Nat.not_lt.2 hsize)] at henc
    cases henc
  · next bytes henc =>
    rw [horigin] at hwithin ⊢
    split
    · exact inv_queue (inv.within (hwithin.trans (within_erase ..)) hlinked) (hwithin.linked.trans hlinked)
        hwithin.links.symm _
    · exact inv_queue (inv.within hwithin hlinked) (hwithin.linked.trans hlinked) hwithin.links.symm _

theorem inv_handleRequestFrame (inv : Inv s) (hlinked : s.linked = true) (frame : LinkFrame) (created : Bool) :
    Inv (handleRequestFrame t s frame created).2 :=
  inv.within (within_handleRequestFrame t s frame created) hlinked

theorem inv_step {a : Action} (inv : Inv s) (ht : Tidy t s a) (h : step t s a = some s') : Inv s' := by
  cases a with
  | dispatch event =>
    unfold step at h
    dsimp only at h
    split at h
    · cases h
    · next p hp =>
      split at h
      · cases h
      · next id hid =>
        obtain rfl := Option.some.inj h
        exact inv_genericDispatcher inv hp hid ht
  | accept =>
    unfold step at h
    dsimp only at h
    split at h
    · cases h
    · next hl =>
      obtain rfl := Option.some.inj h
      obtain ⟨hb, -, htx⟩ := inv.idle (Bool.eq_false_iff.2 hl)
      exact inv_acceptLink inv hb htx
  | recv data =>
    unfold step at h
    dsimp only at h
    split at h
    · next hl =>
      split at h
      · obtain rfl := Option.some.inj h
        exact inv.within ⟨rfl, rfl, rfl, rfl, le_rfl, fun _ _ h => .inl h⟩ hl
      · obtain rfl := Option.some.inj h
        exact inv_dropLink inv (ht.resolve_left Bool.false_ne_true)
    · cases h
  | frame created =>
    unfold step at h
    dsimp only at h
    unfold Tidy at ht
    dsimp only at ht
    split at h
    · next hl =>
      split at h
      · cases h
      · next hmal =>
        rw [hmal] at ht
        obtain rfl := Option.some.inj h
        exact inv_dropLink inv ht
      · next frame rest hok =>
        rw [hok] at ht
        dsimp only at ht
        have inv' : Inv { s with rxBuf := rest } :=
          inv.within ⟨rfl, rfl, rfl, rfl, le_rfl, fun _ _ h => .inl h⟩ hl
        have hinv := inv_handleRequestFrame (t := t) inv' hl frame created
        split at h
        · next r s₁ hr =>
          obtain rfl := Option.some.inj h
          rcases ht with happ | hb
          · cases (handleRequestFrame_of_applies happ).symm.trans (congrArg Prod.fst hr)
          · have hb' : ({ s with rxBuf := rest } : WaylandProxy).Bare := ⟨hb.objects, hb.ids, hb.proxies⟩
            have hrefused : (handleRequestFrame t { s with rxBuf := rest } frame created).2.Bare :=
              bare_of_refused hb' (by rw [hr]; rintro ⟨⟩)
            rw [hr] at hinv hrefused
            exact inv_dropLink hinv hrefused
        · next s₁ hr =>
          obtain rfl := Option.some.inj h
          rw [hr] at hinv
          exact hinv
    · cases h
  | send n =>
    unfold step at h
    dsimp only at h
    split at h
    · next hl =>
      split at h
      · next n =>
        obtain rfl := Option.some.inj h
        exact inv_send inv hl.1 (n + 1)
      · next hn =>
        obtain rfl := Option.some.inj h
        refine inv_dropLink inv (ht.resolve_left fun hpos => ?_)
        rcases n with _ | _ | n
        · exact absurd hpos (lt_irrefl _)
        · exact absurd hpos (lt_irrefl _)
        · exact hn n rfl
    · cases h

/-- A link that is accepted after others in which every drop found only the display left is served as the first
one would be. -/
theorem next_link_fresh (t : Tables) {as : List Action} {s : WaylandProxy}
    (h : RunWhere (step t) (Tidy t) start as s) :
    s.Isolated ∧ ∀ s', step t s .accept = some s' → s'.Fresh := by
  have inv : Inv s := h.invariant inv_start fun _ _ _ inv ht hs => inv_step inv ht hs
  refine ⟨inv.sent, fun s' hs => ?_⟩
  unfold step at hs
  dsimp only at hs
  split at hs
  · cases hs
  · next hl =>
    obtain rfl := Option.some.inj hs
    obtain ⟨hb, hrx, htx⟩ := inv.idle (Bool.eq_false_iff.2 hl)
    exact ⟨hb.objects, hb.ids, hrx, htx⟩

end

/-- A link is gone in the middle of its first frame, and the next one is accepted. -/
theorem next_link_fresh_early :
    ∃ s s', Run (step excerpt) start [.accept, .recv (some [5, 0, 0]), .recv none] s ∧
      step excerpt s .accept = some s' ∧ s.Isolated ∧ s'.Fresh := by
  have hbare : start.Bare := inv_start.idle rfl |>.1
  have h₁ : RunWhere (step excerpt) (Tidy excerpt) start [.accept] start.acceptLink := .snoc .nil trivial rfl
  have hpart : Tidy excerpt start.acceptLink (.recv (some [5, 0, 0])) := .inl rfl
  have hgone : Tidy excerpt { start.acceptLink with rxBuf := [5, 0, 0] } (.recv none) :=
    .inr ⟨rfl, rfl, hbare.proxies⟩
  have h₃ := (h₁.snoc hpart rfl).snoc hgone rfl
  obtain ⟨hisolated, hfresh⟩ := next_link_fresh excerpt h₃
  exact ⟨_, _, h₃.run, rfl, hisolated, hfresh _ rfl⟩

/-- An application asks for the registry. -/
def getRegistry : LinkFrame :=
  { wireBytes := requestBytes 1 1 [{ type := .newId, u32 := 2 }] }

/-- It is gone, and a global is announced to its registry while there is no link. -/
def leftBehind : List Action :=
  [.accept, .recv (some (writeLinkFrame getRegistry)), .frame true, .recv none,
    .dispatch ⟨1, 0, [{ u := 7 }, { s := some (name "wl_seat") }, { u := 5 }]⟩]

/-- The next link finds the registry in the table and the announcement in the buffer, and is sent it. -/
theorem registry_left_behind :
    (∃ s s', Run (step excerpt) start leftBehind s ∧ step excerpt s .accept = some s' ∧ ¬ s'.Fresh) ∧
      ∃ s, Run (step excerpt) start (leftBehind ++ [.accept, .send (some 8)]) s ∧ ¬ s.Isolated := by
  constructor
  · have hkept : (runList (step excerpt) start leftBehind).any (fun s =>
        !s.linked && !s.txBuf.isEmpty) = true := by with_unfolding_all decide
    obtain ⟨s, hs, hleft⟩ := (Option.any_eq_true _ _).1 hkept
    simp only [Bool.and_eq_true, Bool.not_eq_true', List.isEmpty_eq_false_iff] at hleft
    refine ⟨s, s.acceptLink, run_of_runList hs, ?_, fun hfresh => hleft.2 hfresh.toSend⟩
    unfold step
    dsimp only
    rw [if_neg (by rw [hleft.1]; exact Bool.false_ne_true)]
  · have hsent : (runList (step excerpt) start (leftBehind ++ [.accept, .send (some 8)])).any (fun s =>
        s.sent.any fun e => e.2.origin ≠ e.1) = true := by with_unfolding_all decide
    obtain ⟨s, hs, hforeign⟩ := (Option.any_eq_true _ _).1 hsent
    obtain ⟨e, he, hne⟩ := List.any_eq_true.1 hforeign
    exact ⟨s, run_of_runList hs, fun hiso => of_decide_eq_true hne (hiso e he)⟩

end VkRemote.Wayland.WaylandProxy
