import VulkanRemote.Wayland.Traffic

/-! `vkCreateWaylandSurfaceKHR` names a surface to the server on a connection of its own, after a round trip on
the application's. The round trip is what puts the surface into the server half's table before that. -/

namespace VkRemote.Wayland

open Lib

def surfaceName : Name := name "wl_surface"

/-- `wl_display.sync` with `c` for its callback. -/
def Request.Syncs (r : Request) (c : UInt32) : Prop :=
  r.object = 1 ∧ opcodeField r.bytes = 0 ∧ r.creates = [(c, name "wl_callback")]

/-- `wl_display_roundtrip` returns when `done` of its callback has arrived. -/
def App.Returned (app : App) (c : UInt32) : Prop := ∃ m ∈ app.read, objectField m = c ∧ opcodeField m = 0

namespace Relay

/-- Once a round trip is over, the surfaces that were made before it and are not destroyed are found. -/
def SurfacesFound (s : Relay) : Prop :=
  ∀ before sync after c, s.app.written = before ++ sync :: after → sync.Syncs c → s.app.Returned c →
    ∀ r ∈ before, ∀ id, (id, surfaceName) ∈ r.creates →
      (∀ r' ∈ s.app.written, r'.destroys = true → r'.object ≠ id) →
        ∃ i p, s.server.surfaceForClientId id = some i ∧ s.server.proxies i = some p ∧ p.interface = surfaceName

section

variable {t : Tables} {g : Naming} {s s' : Relay}

/-- No surface is made by a request the server half has no proxy for. -/
def Live (t : Tables) (r : Request) : Prop := r.OnStub t → ∀ c ∈ r.creates, c.2 ≠ surfaceName

/-- What an action needs for surfaces to be found. -/
def SurfaceSteady (t : Tables) (s : Relay) : Action → Prop
  | .write bytes => ∀ r, s.app.request t bytes = some r → Live t r
  | a => Steady t s a

theorem SurfaceSteady.steady {a : Action} (h : SurfaceSteady t s a) : Steady t s a := by
  cases a with
  | write bytes => trivial
  | _ => exact h

theorem written_live {a : Action} (hs : step t s a = some s') (ha : SurfaceSteady t s a)
    (h : ∀ r ∈ s.app.written, Live t r) : ∀ r ∈ s'.app.written, Live t r := by
  rcases step_written hs with hsame | ⟨bytes, r, rfl, hr, hnew⟩
  · rw [hsame]
    exact h
  · intro r' hr'
    rw [hnew] at hr'
    rcases List.mem_append.1 hr' with hr' | hr'
    · exact h r' hr'
    · obtain rfl := List.mem_singleton.1 hr'
      exact ha r' hr

theorem run_live (hT : t.Protocol) {as : List Action} (h : RunWhere (step t) (SurfaceSteady t) {} as s) :
    (∃ g, Traffic t g s) ∧ ∀ r ∈ s.app.written, Live t r := by
  refine h.invariant (I := fun s => (∃ g, Traffic t g s) ∧ ∀ r ∈ s.app.written, Live t r)
    ⟨⟨_, traffic_start t⟩, fun r hr => by cases hr⟩ fun _ _ _ hinv ha hs => ?_
  obtain ⟨⟨g, htraffic⟩, hlive⟩ := hinv
  exact ⟨traffic_step htraffic hT ha.steady hs, written_live hs ha hlive⟩

/-- A callback that was told `done` is one the server half had made a proxy of. -/
theorem Traffic.sync_applied (h : Traffic t g s) {before after : List Request} {sync : Request} {c : UInt32}
    (hw : s.app.written = before ++ sync :: after) (hsync : sync.Syncs c) (hret : s.app.Returned c) :
    before ++ [sync] <+: s.applied := by
  obtain ⟨-, -, hcreates⟩ := hsync
  have hmem : sync ∈ s.app.written := by
    rw [hw]
    exact List.mem_append_right _ List.mem_cons_self
  have hclient : c < firstServerSideId :=
    ((h.means sync hmem).creates _ (hcreates ▸ List.mem_singleton_self _)).2.1
  -- the event that said so was sent by the server half, and its object is the application's
  obtain ⟨m, hm, hobject, -⟩ := hret
  obtain ⟨e, he, rfl⟩ := h.pending m (.inl hm)
  obtain ⟨r, hr, hid⟩ := h.origin e (List.mem_append_left _ he)
    (show objectField e.frame.wireBytes < firstServerSideId by rw [hobject]; exact hclient)
  rw [show e.object = c from hobject] at hid
  -- one request only creates that object
  have hprefix : s.applied <+: s.app.written := ⟨s.requests ++ s.unsent, by rw [h.written, List.append_assoc]⟩
  have hprefix' : before ++ [sync] <+: s.app.written := ⟨after, by rw [hw, List.append_assoc]; rfl⟩
  rcases List.prefix_or_prefix_of_prefix hprefix' hprefix with hdone | hdone
  · exact hdone
  · rcases List.prefix_concat_iff.1 hdone with heq | hearly
    · rw [heq]
    · have hdistinct := h.distinct
      rw [hw, List.flatMap_append, List.map_append] at hdistinct
      obtain ⟨made, hmade, rfl⟩ := List.mem_map.1 hid
      have hfirst : made.1 ∈ (before.flatMap (·.creates)).map Prod.fst :=
        List.mem_map_of_mem (List.mem_flatMap.2 ⟨r, hearly.subset hr, hmade⟩)
      have hsecond : made.1 ∈ ((sync :: after).flatMap (·.creates)).map Prod.fst := by
        rw [List.flatMap_cons, hcreates]
        exact List.mem_cons_self
      exact absurd rfl ((List.nodup_append.1 hdistinct).2.2 _ hfirst _ hsecond)

theorem lookup_surface (t : Tables) : t.lookupWlInterface surfaceName = true :=
  t.lookupWlInterface_core (by with_unfolding_all decide)

/-- A surface in the table of the server half has a proxy. -/
theorem surface_entry {n : ℕ} {made gone : UInt32 → Prop} {S : WaylandProxy} (h : Served t g n made gone S)
    {id : UInt32} (hname : g id = some surfaceName) (hentry : S.objects id ≠ none) :
    ∃ i p, S.surfaceForClientId id = some i ∧ S.proxies i = some p ∧ p.interface = surfaceName := by
  obtain ⟨e, he⟩ := Option.ne_none_iff_exists'.1 hentry
  obtain ⟨hface, hstub⟩ := h.entries id e he
  have hface' : e.interface = surfaceName := Option.some.inj (hface.symm.trans hname)
  obtain ⟨i, hi⟩ : ∃ i, e.proxy = some i := by
    rcases hproxy : e.proxy with _ | i
    · obtain ⟨-, hlookup⟩ := hstub.1 hproxy
      rw [hface', lookup_surface] at hlookup
      cases hlookup
    · exact ⟨i, rfl⟩
  obtain ⟨p, hp, hsame, -⟩ := h.live id e i he hi
  refine ⟨i, p, ?_, hp, hsame.trans hface'⟩
  unfold WaylandProxy.surfaceForClientId
  rw [he]
  exact (if_neg (not_not.2 hface')).trans hi

/-- In any interleaving, if server-side ids do not run out, a round trip of the application puts the surfaces it
has made into the table the server looks them up in. -/
theorem surfaces_found (hT : t.Protocol) {as : List Action} (h : RunWhere (step t) (SurfaceSteady t) {} as s)
    (hlinked : s.server.linked = true) : s.SurfacesFound := by
  intro before sync after c hw hsync hret r hr id hmade hkept
  obtain ⟨⟨g, htraffic⟩, hlive⟩ := run_live hT h
  obtain ⟨n, hserved⟩ := htraffic.served hlinked
  have hwritten : r ∈ s.app.written := by
    rw [hw]
    exact List.mem_append_left _ hr
  have happlied : r ∈ s.applied :=
    (htraffic.sync_applied hw hsync hret).subset (List.mem_append_left _ hr)
  have hid : s.Made t id :=
    .inr (.inl ⟨r, happlied, fun hstub => hlive r hwritten hstub _ hmade rfl, List.mem_map_of_mem hmade⟩)
  have hgone : ¬ s.Gone id := by
    rintro ⟨r', hr', hdestroys, heq⟩
    have hmem : r' ∈ s.app.written := by
      rw [htraffic.written, List.append_assoc]
      exact List.mem_append_left _ hr'
    exact hkept r' hmem hdestroys heq.symm
  exact surface_entry hserved ((htraffic.means r hwritten).creates _ hmade).1 (hserved.kept id hid hgone)

end

/-! ### A round trip, and ids that run out -/

/-- The application writes a message and every byte of it moves on at once. -/
def carried (bytes : List UInt8) : List Action :=
  [.write bytes, .recvApp bytes.length, .request, .sendLink (bytes.length + 8), .recv (some (bytes.length + 8)),
    .frame true]

def newIdArg (id : UInt32) : DecodedArg := { type := .newId, u32 := id }

def bindArgs (number : UInt32) (id : UInt32) (interface : String) : List DecodedArg :=
  [{ type := .uint, u32 := number }, { type := .newId, u32 := id, str := name interface, newIdVersion := 1 }]

/-- An application makes the surface 4 and a data device, and a round trip, of which only the last message is still
with the client half. -/
def almostReturned : List Action :=
  [requestBytes 1 1 [newIdArg 2], requestBytes 2 0 (bindArgs 1 3 "wl_compositor"), requestBytes 3 0 [newIdArg 4],
    requestBytes 2 0 (bindArgs 2 5 "wl_data_device_manager"), requestBytes 2 0 (bindArgs 3 6 "wl_seat"),
    requestBytes 5 1 [newIdArg 7, { type := .object, u32 := 6 }],
    requestBytes 1 0 [newIdArg 8]].flatMap carried ++
  [.dispatch ⟨7, 0, [{ u := 1 }]⟩, .send (some 20), .recvLink 20, .event true]

/-- Something is offered to the data device. -/
def offer : Event := ⟨6, 0, [{ n := (name "wl_data_offer", 1) }]⟩

/-- The data device is there, and the link is. -/
structure Offered (s : Relay) : Prop where
  device : s.server.proxies 6 = some ⟨name "wl_data_device", 1, some 7, 1⟩
  numbered : 6 < s.server.made
  linked : s.server.linked = true

theorem event_offer : excerpt.event (name "wl_data_device") 0 =
    some ⟨name "data_offer", [newIdOf "wl_data_offer"], false⟩ := by with_unfolding_all decide

/-- The server half once its dispatcher has given `offer` an id. -/
def offeredTo (S : WaylandProxy) (wireBytes : List UInt8) : WaylandProxy :=
  { { S with nextServerSideId := S.nextServerSideId + 1 }.register S.nextServerSideId (name "wl_data_offer") 1 1
      (name "wl_data_offer") with
    txBuf := S.txBuf ++ (writeLinkFrame { wireBytes, fdBlobs := [] }).map (⟨·, 1⟩) }

theorem genericDispatcher_offer (S : WaylandProxy) : ∃ wireBytes,
    S.genericDispatcher excerpt ⟨name "wl_data_device", 1, some 7, 1⟩ 7 offer = offeredTo S wireBytes := by
  have hpacked : WaylandProxy.eventArgs [newIdOf "wl_data_offer"] offer.args 1 S =
      ([{ type := .newId, str := name "wl_data_offer", u32 := S.nextServerSideId }], [],
        { S with nextServerSideId := S.nextServerSideId + 1 }.register S.nextServerSideId (name "wl_data_offer") 1 1
          (name "wl_data_offer")) := rfl
  have hdelete : WaylandProxy.isDeleteId (name "wl_data_device")
      ⟨name "data_offer", [newIdOf "wl_data_offer"], false⟩ = false := by with_unfolding_all decide
  obtain ⟨wireBytes, henc⟩ : ∃ out, encodeMessage 7 0
      [{ type := .newId, str := name "wl_data_offer", u32 := S.nextServerSideId }] = some out :=
    ⟨_, encodeMessage_eq_some_iff.2 ⟨by simp [encodeBody, encodeArg], rfl⟩⟩
  refine ⟨wireBytes, ?_⟩
  unfold WaylandProxy.genericDispatcher
  rw [show excerpt.event _ offer.opcode = _ from event_offer]
  dsimp only
  rw [hpacked, show encodeMessage 7 offer.opcode _ = _ from henc, hdelete]
  rfl

theorem dispatch_offer {s : Relay} (h : Offered s) : ∃ s', step excerpt s (.dispatch offer) = some s' ∧ Offered s' ∧
    s'.server.nextServerSideId = s.server.nextServerSideId + 1 ∧ s'.app = s.app ∧ s'.client = s.client ∧
    s'.ended = s.ended ∧
    s'.server.objects s.server.nextServerSideId = some ⟨name "wl_data_offer", 1, some s.server.made⟩ := by
  obtain ⟨hdevice, hnumbered, hlinked⟩ := h
  obtain ⟨wireBytes, hdispatch⟩ := genericDispatcher_offer s.server
  have hserver : s.server.step excerpt (.dispatch offer) = some (offeredTo s.server wireBytes) := by
    unfold WaylandProxy.step
    dsimp only
    rw [show s.server.proxies offer.target = _ from hdevice]
    dsimp only
    rw [hdispatch]
  have htyped : (excerpt.event (name "wl_data_device") offer.opcode).all
      (fun spec => Typed spec.args offer.args) = true := by with_unfolding_all decide
  have hstep : step excerpt s (.dispatch offer) = some { s with
      server := offeredTo s.server wireBytes
      events := s.events ++
        (s.server.told excerpt ⟨name "wl_data_device", 1, some 7, 1⟩ 7 offer).toList } := by
    unfold step dispatchStep
    dsimp only
    rw [show s.server.proxies offer.target = _ from hdevice]
    dsimp only
    rw [if_pos htyped, hserver]
    exact congrArg some (congrArg (fun events => { s with server := offeredTo s.server wireBytes, events })
      (if_pos hlinked))
  refine ⟨_, hstep, ⟨?_, Nat.lt_succ_of_lt hnumbered, hlinked⟩, rfl, rfl, rfl, rfl, Function.update_self ..⟩
  exact (Function.update_of_ne (Nat.ne_of_lt hnumbered) ..).trans hdevice

theorem run_offers {s : Relay} (h : Offered s) (n : ℕ) : ∃ s',
    Run (step excerpt) s (List.replicate n (.dispatch offer)) s' ∧ Offered s' ∧
    s'.server.nextServerSideId = s.server.nextServerSideId + UInt32.ofNat n ∧ s'.app = s.app ∧
    s'.client = s.client ∧ s'.ended = s.ended := by
  induction n with
  | zero => exact ⟨s, .nil, h, (UInt32.add_zero _).symm, rfl, rfl, rfl⟩
  | succ n ih =>
    obtain ⟨s₁, hrun, h₁, hnext, happ, hclient, hended⟩ := ih
    obtain ⟨s₂, hstep, h₂, hnext', happ', hclient', hended', -⟩ := dispatch_offer h₁
    refine ⟨s₂, ?_, h₂, ?_, happ'.trans happ, hclient'.trans hclient, hended'.trans hended⟩
    · rw [List.replicate_succ']
      exact hrun.snoc hstep
    · rw [hnext', hnext, UInt32.add_assoc, UInt32.ofNat_add]
      rfl

/-- What a request says. -/
structure Said where
  object : UInt32
  opcode : UInt16
  creates : List (UInt32 × Name)
  destroys : Bool
  deriving DecidableEq

def said (r : Request) : Said := ⟨r.object, opcodeField r.bytes, r.creates, r.destroys⟩

def earlier : List Said :=
  [⟨1, 1, [(2, name "wl_registry")], false⟩, ⟨2, 0, [(3, name "wl_compositor")], false⟩,
    ⟨3, 0, [(4, surfaceName)], false⟩, ⟨2, 0, [(5, name "wl_data_device_manager")], false⟩,
    ⟨2, 0, [(6, name "wl_seat")], false⟩, ⟨5, 1, [(7, name "wl_data_device")], false⟩]

def roundTrip : Said := ⟨1, 0, [(8, name "wl_callback")], false⟩

/-- What there is when the last message of the round trip is about to reach the application. -/
def AlmostReturned (s : Relay) : Prop :=
  s.ended = none ∧ s.server.linked = true ∧ s.server.nextServerSideId = firstServerSideId ∧ 6 < s.server.made ∧
    s.server.proxies 6 = some ⟨name "wl_data_device", 1, some 7, 1⟩ ∧
    s.client.pendingApp = [{ bytes := requestBytes 8 0 [{ type := .uint, u32 := 1 }], fds := [] }] ∧
    s.app.written.map said = earlier ++ [roundTrip]

instance (s : Relay) : Decidable s.AlmostReturned := inferInstanceAs (Decidable (_ ∧ _))

theorem run_almostReturned : ∃ s, Run (step excerpt) {} almostReturned s ∧ s.AlmostReturned := by
  have hrun : (runList (step excerpt) {} almostReturned).any (fun s => s.AlmostReturned) = true := by decide +kernel
  obtain ⟨s, hs, halmost⟩ := (Option.any_eq_true _ _).1 hrun
  exact ⟨s, run_of_runList hs, of_decide_eq_true halmost⟩

/-- The last message is read, and the round trip returns. -/
theorem returns {s : Relay} {m : List UInt8} (hended : s.ended = none)
    (hpending : s.client.pendingApp = [{ bytes := m, fds := [] }]) (hm : 0 < m.length)
    (hdone : objectField m = 8 ∧ opcodeField m = 0) :
    ∃ s', step excerpt s (.sendApp m.length) = some s' ∧ s'.server = s.server ∧ s'.app.written = s.app.written ∧
      s'.app.Returned 8 := by
  have hflush : s.client.flushTxApp m.length = some ({ s.client with pendingApp := [] }, some m) := by
    unfold ProxyClient.flushTxApp
    rw [hpending]
    dsimp only
    rw [if_neg (by omega), if_pos (Nat.zero_add _)]
  refine ⟨{ s with client := { s.client with pendingApp := [] }, app := s.app.hear excerpt m }, ?_, rfl, rfl,
    m, List.mem_append_right _ (List.mem_singleton_self m), hdone⟩
  unfold step clientStep
  dsimp only
  rw [hended, hflush]
  rfl

/-- The surface 4 is one to be found. -/
theorem SurfacesFound.surface {s : Relay} (h : s.SurfacesFound) (hreturned : s.app.Returned 8)
    (hwritten : s.app.written.map said = earlier ++ [roundTrip]) :
    ∃ i, s.server.surfaceForClientId 4 = some i := by
  obtain ⟨before, last, hw, hbefore, hlast⟩ := List.map_eq_append_iff.1 hwritten
  obtain ⟨sync, rfl, hsync⟩ := List.map_eq_singleton_iff.1 hlast
  simp only [said, roundTrip, Said.mk.injEq] at hsync
  obtain ⟨hobject, hopcode, hcreates, -⟩ := hsync
  obtain ⟨r, hr, hsaid⟩ : ∃ r ∈ before, said r = ⟨3, 0, [(4, surfaceName)], false⟩ :=
    List.mem_map.1 (by rw [hbefore]; with_unfolding_all decide)
  simp only [said, Said.mk.injEq] at hsaid
  obtain ⟨-, -, hmade, -⟩ := hsaid
  have hkept : ∀ r ∈ s.app.written, r.destroys = true → r.object ≠ 4 := by
    intro r hr hdestroys
    have hnone : ∀ x ∈ earlier ++ [roundTrip], x.destroys = false := by decide
    have hsaid := hnone (said r) (hwritten ▸ List.mem_map_of_mem hr)
    cases hdestroys.symm.trans hsaid
  obtain ⟨i, -, hi, -⟩ := h before sync [] 8 hw ⟨hobject, hopcode, hcreates⟩ hreturned r hr 4
    (by rw [hmade]; exact List.mem_singleton_self _) hkept
  exact ⟨i, hi⟩

theorem excerpt_protocol : excerpt.Protocol := ⟨by with_unfolding_all decide, by with_unfolding_all decide⟩

instance (t : Tables) (r : Request) : Decidable (r.OnStub t) := inferInstanceAs (Decidable (_ ∧ _))

instance (t : Tables) (r : Request) : Decidable (Live t r) := inferInstanceAs (Decidable (_ → _))

instance (S : WaylandProxy) (k : ℕ) : Decidable (IdsLeft S k) := inferInstanceAs (Decidable (_ ∨ _))

instance (t : Tables) (s : Relay) (event : Event) : Decidable (Bounded t s event) :=
  inferInstanceAs (Decidable (∀ proxy ∈ s.server.proxies event.target,
    (∀ spec ∈ t.event proxy.interface event.opcode, IdsLeft s.server (newIdCount spec.args)) ∧
      ∀ a ∈ event.args, a.h.length < 2 ^ 32))

instance (t : Tables) (s : Relay) : DecidablePred (SurfaceSteady t s)
  | .write bytes => inferInstanceAs (Decidable (∀ r ∈ s.app.request t bytes, Live t r))
  | .dispatch event => inferInstanceAs (Decidable (Bounded t s event))
  | .recvApp _ | .request | .sendLink _ | .recvLink _ | .event _ | .sendApp _ | .fail | .recv _ | .frame _ | .send _ =>
    isTrue trivial

/-- When the round trip above returns, the surface 4 is found. -/
theorem surfaces_found_returned : ∃ s, RunWhere (step excerpt) (SurfaceSteady excerpt) {} almostReturned s ∧
    ∃ s', step excerpt s (.sendApp 12) = some s' ∧ s'.app.Returned 8 ∧ s'.SurfacesFound := by
  have hrun : (runList (checked (step excerpt) (SurfaceSteady excerpt)) {} almostReturned).any
      (fun s => s.AlmostReturned) = true := by decide +kernel
  obtain ⟨s, hs, halmost⟩ := (Option.any_eq_true _ _).1 hrun
  obtain ⟨hended, hlinked, -, -, -, hpending, -⟩ := of_decide_eq_true halmost
  obtain ⟨s', hstep, hserver, -, hreturned⟩ := returns hended hpending (by decide) (by decide)
  have hwhere := runWhere_of_checked hs
  have hsteady : SurfaceSteady excerpt s (.sendApp 12) := trivial
  exact ⟨s, hwhere, s', hstep, hreturned,
    surfaces_found excerpt_protocol (hwhere.snoc hsteady hstep) (by rw [hserver]; exact hlinked)⟩

/-- After 2 ^ 24 offers the ids of the application's own objects are given to new ones, and when the round trip
returns the surface is not found. -/
theorem surface_lost : ∃ as s, Run (step excerpt) {} as s ∧ s.server.linked = true ∧ ¬ s.SurfacesFound := by
  obtain ⟨s, hrun, hended, hlinked, hnext, hmade, hdevice, hpending, hwritten⟩ := run_almostReturned
  obtain ⟨n, hn⟩ : ∃ n, firstServerSideId + UInt32.ofNat n = 4 := ⟨2 ^ 24 + 4, by decide⟩
  obtain ⟨s₁, hrun₁, h₁, hnext₁, happ₁, hclient₁, hended₁⟩ := run_offers ⟨hdevice, hmade, hlinked⟩ n
  obtain ⟨s₂, hstep₂, h₂, -, happ₂, hclient₂, hended₂, hobject⟩ := dispatch_offer h₁
  rw [hnext₁, hnext, hn] at hobject
  obtain ⟨s₃, hstep₃, hserver, hwritten₃, hreturned⟩ := returns (s := s₂) (hended₂.trans (hended₁.trans hended))
    (by rw [hclient₂, hclient₁, hpending]) (by decide) (by decide)
  have hlinked₃ : s₃.server.linked = true := by
    rw [hserver]
    exact h₂.linked
  refine ⟨_, s₃, ((hrun.append hrun₁).snoc hstep₂).snoc hstep₃, hlinked₃, fun hfound => ?_⟩
  obtain ⟨i, hi⟩ := hfound.surface hreturned (by rw [hwritten₃, happ₂, happ₁, hwritten])
  rw [hserver] at hi
  unfold WaylandProxy.surfaceForClientId at hi
  rw [hobject] at hi
  have hother : name "wl_data_offer" ≠ name "wl_surface" := by with_unfolding_all decide
  cases hi.symm.trans (if_pos hother)

end Relay

end VkRemote.Wayland
