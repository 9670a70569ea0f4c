import VulkanRemote.Wayland.Served

/-! What holds of everything on its way between the application and the compositor, in every interleaving: the
queues are in order, and every table names an object as the application does. -/

namespace VkRemote.Wayland

open Lib

def Request.frame (r : Request) : LinkFrame := { wireBytes := r.bytes }

/-- Each event is for an object that is known when it arrives, if the ones before it have arrived. -/
def Arrives : (UInt32 → Prop) → List Told → Prop
  | _, [] => True
  | known, e :: es => known e.object ∧ Arrives (fun id => known id ∨ id ∈ e.creates.map Prod.fst) es

theorem Arrives.mono {known known' : UInt32 → Prop} {es : List Told} (h : Arrives known es)
    (hk : ∀ id, known id → known' id) : Arrives known' es := by
  induction es generalizing known known' with
  | nil => trivial
  | cons e es ih => exact ⟨hk _ h.1, ih h.2 fun id hid => hid.imp_left (hk id)⟩

theorem Arrives.append {known : UInt32 → Prop} {es : List Told} {e : Told} (h : Arrives known es)
    (he : known e.object ∨ ∃ e' ∈ es, e.object ∈ e'.creates.map Prod.fst) : Arrives known (es ++ [e]) := by
  induction es generalizing known with
  | nil =>
    rcases he with he | ⟨_, he', _⟩
    · exact ⟨he, trivial⟩
    · cases he'
  | cons e₁ es ih =>
    refine ⟨h.1, ih h.2 ?_⟩
    rcases he with he | ⟨e', he', hid⟩
    · exact .inl (.inl he)
    · rcases List.mem_cons.1 he' with rfl | he'
      · exact .inl (.inr hid)
      · exact .inr ⟨e', he', hid⟩

namespace Relay

/-- What the server half was told to make. -/
def Made (t : Tables) (s : Relay) (id : UInt32) : Prop :=
  id = 1 ∨ (∃ r ∈ s.applied, ¬ r.OnStub t ∧ id ∈ r.creates.map Prod.fst) ∨
    ∃ e ∈ s.passed ++ s.events, id ∈ e.creates.map Prod.fst

/-- What it was told to destroy. -/
def Gone (s : Relay) (id : UInt32) : Prop := ∃ r ∈ s.applied, r.destroys = true ∧ id = r.object

/-- Once the link is dropped, nothing is said of the server half any more, and what it had not sent is lost. -/
structure Traffic (t : Tables) (g : Naming) (s : Relay) : Prop where
  root : g 1 = some displayName
  -- the application and its requests
  written : s.app.written = s.applied ++ s.requests ++ s.unsent
  socket : s.client.rxApp ++ s.appSocket = s.unsent.flatMap (·.bytes)
  means : ∀ r ∈ s.app.written, r.Means t g
  distinct : ((s.app.written.flatMap (·.creates)).map Prod.fst).Nodup
  named : ∀ id o, s.app.objects id = some o → g id = some o.interface
  given : ∀ id, g id ≠ none → id < firstServerSideId → s.app.objects id ≠ none
  -- the client half
  clientNamed : ∀ id o, s.client.objects id = some o → g id = some o.interface
  clientRoot : s.client.objects 1 ≠ none
  clientMade : ∀ r ∈ s.applied ++ s.requests, ∀ c ∈ r.creates, s.client.objects c.1 ≠ none
  clientTold : ∀ e ∈ s.passed, ∀ c ∈ e.creates, s.client.objects c.1 ≠ none
  forwarded : ∀ r ∈ s.applied ++ s.requests, t.request r.interface (opcodeField r.bytes) ≠ none
  -- events
  link : ∃ lost, s.client.rxLink ++ s.down ++ lost = s.events.flatMap (fun e => writeLinkFrame e.frame) ∧
    (s.server.linked = true → lost = s.server.txBuf.map (·.byte))
  tells : ∀ e ∈ s.passed ++ s.events, e.Tells t g
  order : Arrives (fun id => s.client.objects id ≠ none) s.events
  pending : ∀ m, (m ∈ s.app.read ∨ ∃ p ∈ s.client.pendingApp, p.bytes = m) → ∃ e ∈ s.passed, e.frame.wireBytes = m
  origin : ∀ e ∈ s.passed ++ s.events, e.object < firstServerSideId →
    ∃ r ∈ s.applied, e.object ∈ r.creates.map Prod.fst
  -- the server half
  serverLink : s.server.linked = true →
    s.server.rxBuf ++ s.up ++ s.client.txLink = s.requests.flatMap (fun r => writeLinkFrame r.frame)
  served : s.server.linked = true → ∃ n, Served t g n (s.Made t) s.Gone s.server

section

variable {t : Tables} {g : Naming} {s s' : Relay}

def startNaming : Naming := Function.update (fun _ => none) 1 (some displayName)

theorem startNaming_eq_some {id : UInt32} {i : Name} (h : startNaming id = some i) : id = 1 ∧ i = displayName := by
  rw [startNaming, Function.update_apply] at h
  split at h
  · next hid => exact ⟨hid, (Option.some.inj h).symm⟩
  · cases h

theorem lookup_display (t : Tables) : t.lookupWlInterface displayName = true :=
  t.lookupWlInterface_core (by with_unfolding_all decide)

theorem served_start (t : Tables) :
    Served t startNaming 0 (({} : Relay).Made t) ({} : Relay).Gone WaylandProxy.start.acceptLink where
  display p hp := by
    obtain rfl := Option.some.inj hp
    rfl
  numbered := by
    refine ⟨Nat.one_pos, fun i p hp => ?_⟩
    rcases Nat.eq_zero_or_pos i with rfl | hi
    · exact Nat.one_pos
    · cases (WaylandProxy.start_proxies (Nat.pos_iff_ne_zero.1 hi)).symm.trans hp
  next := rfl
  bound := Nat.zero_le _
  below id hid hserver := by
    obtain ⟨i, hi⟩ := Option.ne_none_iff_exists'.1 hid
    obtain ⟨rfl, -⟩ := startNaming_eq_some hi
    exact absurd hserver (by decide)
  names i p id hp hid := by
    rcases Nat.eq_zero_or_pos i with rfl | hi
    · obtain rfl := Option.some.inj hp
      cases hid
    · cases (WaylandProxy.start_proxies (Nat.pos_iff_ne_zero.1 hi)).symm.trans hp
  entries id e he := by
    have hentry : WaylandProxy.displayOnly id = some e := he
    rw [WaylandProxy.displayOnly, Function.update_apply] at hentry
    split at hentry
    · next hid =>
      subst hid
      obtain rfl := Option.some.inj hentry
      refine ⟨rfl, fun h => (by cases h), fun h => ?_⟩
      cases (lookup_display t).symm.trans h.2
    · cases hentry
  live id e i he hi := by
    have hentry : WaylandProxy.displayOnly id = some e := he
    rw [WaylandProxy.displayOnly, Function.update_apply] at hentry
    split at hentry
    · next hid =>
      obtain rfl := Option.some.inj hentry
      obtain rfl := Option.some.inj hi
      exact ⟨_, rfl, rfl, .inr ⟨hid, rfl⟩⟩
    · cases hentry
  kept id hm _ := by
    rcases hm with rfl | ⟨r, hr, _⟩ | ⟨e, he, _⟩
    · exact Option.some_ne_none _
    · cases hr
    · cases he

theorem traffic_start (t : Tables) : Traffic t startNaming {} where
  root := rfl
  written := rfl
  socket := rfl
  means r hr := by cases hr
  distinct := List.nodup_nil
  named id o ho := by
    have hobject : Function.update (fun _ => none) 1 (some ⟨displayName, false⟩) id = some o := ho
    rw [Function.update_apply] at hobject
    split at hobject
    · next hid =>
      subst hid
      obtain rfl := Option.some.inj hobject
      rfl
    · cases hobject
  given id hid _ := by
    obtain ⟨i, hi⟩ := Option.ne_none_iff_exists'.1 hid
    obtain ⟨rfl, -⟩ := startNaming_eq_some hi
    exact Option.some_ne_none _
  clientNamed id o ho := by
    have hobject : Function.update (fun _ => none) 1 (some ⟨displayName, 1⟩) id = some o := ho
    rw [Function.update_apply] at hobject
    split at hobject
    · next hid =>
      subst hid
      obtain rfl := Option.some.inj hobject
      rfl
    · cases hobject
  clientRoot := Option.some_ne_none _
  clientMade r hr := by cases hr
  clientTold e he := by cases he
  forwarded r hr := by cases hr
  link := ⟨[], rfl, fun _ => rfl⟩
  tells e he := by cases he
  order := trivial
  pending m hm := by
    rcases hm with hm | ⟨p, hp, _⟩
    · cases hm
    · cases hp
  origin e he := by cases he
  serverLink _ := rfl
  served _ := ⟨0, served_start t⟩

theorem give_eq_some {objects : UInt32 → Option AppObject} {c : UInt32 × Name} {id : UInt32} {o : AppObject}
    (h : App.give objects c id = some o) : objects id = some o ∨ (id, o.interface) = c ∧ o.destroyed = false := by
  unfold App.give at h
  split at h
  · exact .inl h
  · rw [Function.update_apply] at h
    split at h
    · next hid =>
      obtain rfl := Option.some.inj h
      exact .inr ⟨Prod.ext hid rfl, rfl⟩
    · exact .inl h

/-- Objects the application knows stay as they are. -/
theorem give_of_some {objects : UInt32 → Option AppObject} {id : UInt32} {o : AppObject}
    (h : objects id = some o) (c : UInt32 × Name) : App.give objects c id = some o := by
  unfold App.give
  split
  · exact h
  · next hc =>
    rw [Function.update_of_ne, h]
    rintro rfl
    rw [h] at hc
    exact hc rfl

theorem give_self (objects : UInt32 → Option AppObject) (c : UInt32 × Name) : App.give objects c c.1 ≠ none := by
  unfold App.give
  split
  · next hc => exact Option.isSome_iff_ne_none.1 hc
  · rw [Function.update_self]
    exact Option.some_ne_none _

theorem insert_eq_some {objects : UInt32 → Option AppObject} {created : List (UInt32 × Name)} {id : UInt32}
    {o : AppObject} (h : App.insert objects created id = some o) :
    objects id = some o ∨ (id, o.interface) ∈ created ∧ o.destroyed = false := by
  induction created generalizing objects with
  | nil => exact .inl h
  | cons c created ih =>
    rcases ih h with h | ⟨h, hd⟩
    · exact (give_eq_some h).imp_right fun ⟨h, hd⟩ => ⟨h ▸ List.mem_cons_self, hd⟩
    · exact .inr ⟨List.mem_cons_of_mem _ h, hd⟩

theorem insert_of_some {objects : UInt32 → Option AppObject} {id : UInt32} {o : AppObject}
    (h : objects id = some o) (created : List (UInt32 × Name)) : App.insert objects created id = some o := by
  induction created generalizing objects with
  | nil => exact h
  | cons c created ih => exact ih (give_of_some h c)

theorem insert_ne_none {objects : UInt32 → Option AppObject} {created : List (UInt32 × Name)} {id : UInt32}
    (h : objects id ≠ none ∨ id ∈ created.map Prod.fst) : App.insert objects created id ≠ none := by
  induction created generalizing objects with
  | nil => exact h.resolve_right List.not_mem_nil
  | cons c created ih =>
    refine ih ?_
    rcases h with h | h
    · obtain ⟨o, ho⟩ := Option.ne_none_iff_exists'.1 h
      exact .inl (by rw [give_of_some ho]; exact Option.some_ne_none o)
    · rcases List.mem_cons.1 h with rfl | h
      · exact .inl (give_self _ _)
      · exact .inr h

/-- New objects are new to every table. -/
theorem Traffic.fresh {created : List (UInt32 × Name)} (h : Traffic t g s) (hf : s.app.Fresh created) :
    ∀ c ∈ created, g c.1 = none := by
  intro c hc
  obtain ⟨-, hlt, hnone, -⟩ := hf.1 c hc
  rcases hg : g c.1 with _ | i
  · rfl
  · exact absurd hnone (h.given c.1 (by rw [hg]; exact Option.some_ne_none i) hlt)

/-- What a well-behaved application writes it means, under a naming that has its new objects too. -/
theorem means_of_request {bytes : List UInt8} {r : Request} (h : Traffic t g s) (hr : s.app.request t bytes = some r) :
    r.bytes = bytes ∧ s.app.Fresh r.creates ∧
      (∃ o, s.app.objects r.object = some o ∧ o.interface = r.interface ∧ o.destroyed = false) ∧
      r.Means t (putAll g r.creates) := by
  unfold App.request at hr
  split at hr
  · cases hr
  next o ho =>
  split at hr
  · cases hr
  next hwhole =>
  rw [not_or, not_not, Bool.not_eq_true] at hwhole
  split at hr
  · next hspec =>
    obtain rfl := Option.some.inj hr
    exact ⟨rfl, ⟨fun c hc => (by cases hc), List.nodup_nil⟩, ⟨o, ho, rfl, hwhole.1⟩, hwhole.2, h.named _ o ho,
      fun spec hs => (by cases hspec.symm.trans hs), fun _ => ⟨rfl, rfl⟩, fun c hc => (by cases hc), List.not_mem_nil⟩
  next spec hspec =>
  split at hr
  · cases hr
  next args hargs =>
  split at hr
  · next hfresh =>
    obtain rfl := Option.some.inj hr
    have hnew := h.fresh hfresh.2
    refine ⟨rfl, hfresh.2, ⟨o, ho, rfl, hwhole.1⟩, hwhole.2, putAll_of_fresh hnew (h.named _ o ho), fun spec' hs => ?_,
      fun hnone => (by cases hspec.symm.trans hnone), fun c hc => ?_, fun hmem => ?_⟩
    · obtain rfl := Option.some.inj (hspec.symm.trans hs)
      exact ⟨args, hargs, rfl, rfl, hfresh.1⟩
    · obtain ⟨-, hlt, -, hdisplay⟩ := hfresh.2.1 c hc
      exact ⟨putAll_of_nodup hfresh.2.2 hc, hlt, hdisplay⟩
    · obtain ⟨c, hc, heq⟩ := List.mem_map.1 hmem
      have hnone := (hfresh.2.1 c hc).2.2.1
      rw [heq] at hnone
      cases hnone.symm.trans ho
  · cases hr

/-- The application's table once it has written `r`. -/
theorem written_objects {r : Request} {id : UInt32} :
    (s.app.objects id ≠ none → (s.app.write r).objects id ≠ none) ∧
      (id ∈ r.creates.map Prod.fst → (s.app.write r).objects id ≠ none) := by
  refine ⟨fun h => insert_ne_none (.inl ?_), fun h => insert_ne_none (.inr h)⟩
  split
  · rw [Function.update_apply]
    split
    · exact Option.some_ne_none _
    · exact h
  · exact h

theorem traffic_write {bytes : List UInt8} {r : Request} (h : Traffic t g s) (hr : s.app.request t bytes = some r) :
    Traffic t (putAll g r.creates)
      { s with app := s.app.write r, appSocket := s.appSocket ++ bytes, unsent := s.unsent ++ [r] } := by
  obtain ⟨hbytes, hfresh, ⟨o, ho, hface, -⟩, hmeans⟩ := means_of_request h hr
  have hnew := h.fresh hfresh
  have hext : g.Extends (putAll g r.creates) := .put hnew
  exact { h with
    root := hext _ _ h.root
    written := by
      show s.app.written ++ [r] = _
      rw [h.written, List.append_assoc]
    socket := by
      show s.client.rxApp ++ (s.appSocket ++ bytes) = _
      rw [← List.append_assoc, h.socket, List.flatMap_append, List.flatMap_singleton, hbytes]
    means := fun r' hr' => by
      rcases List.mem_append.1 hr' with hr' | hr'
      · exact (h.means r' hr').mono hext
      · obtain rfl := List.mem_singleton.1 hr'
        exact hmeans
    distinct := by
      show (((s.app.written ++ [r]).flatMap (·.creates)).map Prod.fst).Nodup
      rw [List.flatMap_append, List.flatMap_singleton, List.map_append]
      refine List.nodup_append.2 ⟨h.distinct, hfresh.2, fun x hx y hy hxy => ?_⟩
      subst hxy
      obtain ⟨c, hc, rfl⟩ := List.mem_map.1 hx
      obtain ⟨c', hc', heq⟩ := List.mem_map.1 hy
      obtain ⟨r', hr', hcr⟩ := List.mem_flatMap.1 hc
      have hsome := ((h.means r' hr').creates c hcr).1
      rw [← heq, hnew c' hc'] at hsome
      cases hsome
    named := fun id o' ho' => by
      rcases insert_eq_some ho' with ho' | ⟨ho', -⟩
      · split at ho'
        · rw [Function.update_apply] at ho'
          split at ho'
          · next hid =>
            obtain rfl := Option.some.inj ho'
            rw [hid]
            exact hmeans.object
          · exact hext _ _ (h.named id o' ho')
        · exact hext _ _ (h.named id o' ho')
      · exact putAll_of_nodup hfresh.2 ho'
    given := fun id hid hlt => by
      obtain ⟨i, hi⟩ := Option.ne_none_iff_exists'.1 hid
      rcases putAll_eq_some hi with hi | hi
      · exact written_objects.2 (List.mem_map_of_mem (f := Prod.fst) hi)
      · exact written_objects.1 (h.given id (by rw [hi]; exact Option.some_ne_none i) hlt)
    clientNamed := fun id o' ho' => hext _ _ (h.clientNamed id o' ho')
    tells := fun e he => (h.tells e he).mono hext
    pending := h.pending
    served := fun hl => by
      obtain ⟨n, hserved⟩ := h.served hl
      refine ⟨n, hserved.congr hext (fun id hid hnone => ?_) (fun _ => Iff.rfl) fun _ h => h⟩
      obtain ⟨i, hi⟩ := Option.ne_none_iff_exists'.1 hid
      rcases putAll_eq_some hi with hi | hi
      · exact (hmeans.creates _ hi).2.1
      · cases hnone.symm.trans hi }

theorem insertNewIds_eq (table : ObjectTable) (args : List DecodedArg) : insertNewIds table args =
    putAll table ((args.filter (·.type = .newId)).map fun arg => (arg.u32, arg.info)) := by
  induction args generalizing table with
  | nil => rfl
  | cons arg args ih =>
    rw [insertNewIds, List.foldl_cons, ← insertNewIds, ih]
    by_cases hnew : arg.type = .newId
    · simp [hnew, putAll_cons]
    · simp [hnew]

theorem insertNewIds_eq_some {table : ObjectTable} {args : List DecodedArg} {id : UInt32} {o : ObjectInfo}
    (h : insertNewIds table args id = some o) : (id, o.interface) ∈ creations args ∨ table id = some o := by
  rw [insertNewIds_eq] at h
  refine (putAll_eq_some h).imp_left fun hm => ?_
  obtain ⟨arg, harg, heq⟩ := List.mem_map.1 hm
  obtain ⟨rfl, rfl⟩ := Prod.mk.inj heq
  exact List.mem_map.2 ⟨arg, harg, rfl⟩

theorem insertNewIds_ne_none {table : ObjectTable} {args : List DecodedArg} {id : UInt32}
    (h : table id ≠ none ∨ id ∈ (creations args).map Prod.fst) : insertNewIds table args id ≠ none := by
  rw [insertNewIds_eq]
  refine putAll_ne_none (h.imp_right fun hm => ?_)
  rw [creations, List.map_map] at hm
  rw [List.map_map]
  exact hm

theorem track_newIds {interface : Name} {isEvent : Bool} {spec : MessageSpec} (table : ObjectTable)
    (args : List DecodedArg) (h : isEvent = false ∨ interface ≠ displayName) :
    trackObjectLifetime table interface isEvent spec args = insertNewIds table args := by
  have hno : (isEvent && WaylandProxy.isDeleteId interface spec) = false := by
    rcases h with rfl | h
    · rfl
    · rw [WaylandProxy.isDeleteId, decide_eq_false h, Bool.false_and, Bool.and_false]
  unfold trackObjectLifetime
  rw [hno]

/-- What a turn that forwards a request has found. -/
theorem extractAndForwardRequest_on {c c' : ProxyClient} (h : c.extractAndForwardRequest t = .on c') :
    ∃ whole rest obj spec args, takeWireMessage c.rxApp = .ok whole rest ∧ c.objects (objectField whole) = some obj ∧
      t.request obj.interface (opcodeField whole) = some spec ∧
      decodeMessage spec.args (whole.drop 8) = some args ∧
      c' = { c with
        rxApp := rest
        objects := insertNewIds c.objects args
        txLink := c.txLink ++ writeLinkFrame { wireBytes := whole } } := by
  unfold ProxyClient.extractAndForwardRequest at h
  split at h
  · cases h
  · cases h
  next whole rest htake =>
  split at h
  · cases h
  next obj hobj =>
  split at h
  · cases h
  next spec hspec =>
  split at h
  · cases h
  split at h
  · cases h
  next args hargs =>
  rw [track_newIds _ _ (.inl rfl)] at h
  exact ⟨whole, rest, obj, spec, args, htake, hobj, hspec, hargs, (Turn.on.inj h).symm⟩

/-- The message the client half takes is the first one the application has written and the client half has not. -/
theorem Traffic.head_unsent (h : Traffic t g s) {whole rest : List UInt8}
    (htake : takeWireMessage s.client.rxApp = .ok whole rest) :
    ∃ r rs, s.unsent = r :: rs ∧ r.bytes = whole ∧ rest ++ s.appSocket = rs.flatMap (·.bytes) := by
  have hstream : s.client.rxApp ++ s.appSocket = (s.unsent.map (·.bytes)).flatMap id := by
    rw [h.socket, List.flatMap_map]
    rfl
  have hreads : ∀ m ∈ s.unsent.map (·.bytes), Reads takeWireMessage id m := by
    intro m hm
    obtain ⟨r, hr, rfl⟩ := List.mem_map.1 hm
    exact reads_message (h.means r (by rw [h.written]; exact List.mem_append_right _ hr)).whole
  obtain ⟨ys, hys, hrest⟩ := incremental_takeWireMessage.take_stream rfl hreads hstream htake
  obtain ⟨r, rs, hunsent, hr, rfl⟩ := List.map_eq_cons_iff.1 hys
  exact ⟨r, rs, hunsent, hr, by rw [hrest, List.flatMap_map]; rfl⟩

/-- The client half reads a request as the application meant it. -/
theorem means_read {r : Request} {interface : Name} {spec : MessageSpec} {args : List DecodedArg}
    (hr : r.Means t g) (hg : g r.object = some interface)
    (hspec : t.request interface (opcodeField r.bytes) = some spec)
    (hargs : decodeMessage spec.args (r.bytes.drop 8) = some args) :
    interface = r.interface ∧ r.creates = creations args ∧ r.destroys = spec.isDestructor := by
  obtain rfl := Option.some.inj (hg.symm.trans hr.object)
  obtain ⟨args', hargs', hcreates, hdestroys, -⟩ := hr.known spec hspec
  obtain rfl := Option.some.inj (hargs.symm.trans hargs')
  exact ⟨rfl, hcreates, hdestroys⟩

theorem traffic_request (h : Traffic t g s) {c : ProxyClient} (hc : s.client.extractAndForwardRequest t = .on c) :
    Traffic t g { s with
      client := c
      unsent := s.unsent.tail
      requests := s.requests ++ s.unsent.head?.toList } := by
  obtain ⟨whole, rest, obj, spec, args, htake, hobj, hspec, hargs, rfl⟩ := extractAndForwardRequest_on hc
  obtain ⟨r, rs, hunsent, rfl, hrest⟩ := h.head_unsent htake
  have hmem : r ∈ s.app.written := by
    rw [h.written, hunsent]
    exact List.mem_append_right _ List.mem_cons_self
  obtain ⟨hface, hcreates, -⟩ := means_read (h.means r hmem) (h.clientNamed _ obj hobj) hspec hargs
  have hkeeps : ∀ id, s.client.objects id ≠ none → insertNewIds s.client.objects args id ≠ none :=
    fun id hid => insertNewIds_ne_none (.inl hid)
  rw [hunsent]
  exact { h with
    written := by
      show s.app.written = s.applied ++ (s.requests ++ [r]) ++ rs
      rw [h.written, hunsent]
      simp
    socket := hrest
    clientNamed := fun id o ho => by
      rcases insertNewIds_eq_some ho with ho | ho
      · exact ((h.means r hmem).creates _ (hcreates ▸ ho)).1
      · exact h.clientNamed id o ho
    clientRoot := hkeeps _ h.clientRoot
    clientMade := fun r' hr' made hmade => by
      rw [← List.append_assoc] at hr'
      rcases List.mem_append.1 hr' with hr' | hr'
      · exact hkeeps _ (h.clientMade r' hr' made hmade)
      · obtain rfl := List.mem_singleton.1 hr'
        exact insertNewIds_ne_none (.inr (hcreates ▸ List.mem_map_of_mem hmade))
    clientTold := fun e he c hc => hkeeps _ (h.clientTold e he c hc)
    forwarded := fun r' hr' => by
      rw [← List.append_assoc] at hr'
      rcases List.mem_append.1 hr' with hr' | hr'
      · exact h.forwarded r' hr'
      · obtain rfl := List.mem_singleton.1 hr'
        rw [← hface, hspec]
        exact Option.some_ne_none spec
    order := h.order.mono hkeeps
    serverLink := fun hl => by
      show s.server.rxBuf ++ s.up ++ (s.client.txLink ++ _) = (s.requests ++ [r]).flatMap _
      rw [← List.append_assoc, h.serverLink hl, List.flatMap_append, List.flatMap_singleton]
      rfl }

/-- What a turn that passes an event on has found. -/
theorem extractAndForwardEvent_on {c c' : ProxyClient} {made : Bool} (h : c.extractAndForwardEvent t made = .on c') :
    ∃ frame rest obj spec args, takeLinkFrame c.rxLink = .ok frame rest ∧
      c.objects (objectField frame.wireBytes) = some obj ∧
      t.event obj.interface (opcodeField frame.wireBytes) = some spec ∧
      decodeMessage spec.args (frame.wireBytes.drop 8) = some args ∧
      c' = { c with
        rxLink := rest
        objects := trackObjectLifetime c.objects obj.interface true spec args
        pendingApp := c.pendingApp ++ [{ bytes := frame.wireBytes, fds := frame.fdBlobs }] } := by
  unfold ProxyClient.extractAndForwardEvent at h
  split at h
  · cases h
  · cases h
  next frame rest htake =>
  split at h
  · cases h
  split at h
  · cases h
  next obj hobj =>
  split at h
  · cases h
  next spec hspec =>
  split at h
  · cases h
  split at h
  · cases h
  next args hargs =>
  split at h
  · cases h
  exact ⟨frame, rest, obj, spec, args, htake, hobj, hspec, hargs, (Turn.on.inj h).symm⟩

/-- The frame the client half takes is the first event on the link. -/
theorem Traffic.head_event (h : Traffic t g s) {frame : LinkFrame} {rest : List UInt8}
    (htake : takeLinkFrame s.client.rxLink = .ok frame rest) :
    ∃ e es lost, s.events = e :: es ∧ e.frame = frame ∧
      rest ++ (s.down ++ lost) = es.flatMap (fun e => writeLinkFrame e.frame) ∧
      (s.server.linked = true → lost = s.server.txBuf.map (·.byte)) := by
  obtain ⟨lost, hbytes, hlost⟩ := h.link
  have hstream : s.client.rxLink ++ (s.down ++ lost) = (s.events.map (·.frame)).flatMap writeLinkFrame := by
    rw [← List.append_assoc, hbytes, List.flatMap_map]
  have hreads : ∀ f ∈ s.events.map (·.frame), Reads takeLinkFrame writeLinkFrame f := by
    intro f hf
    obtain ⟨e, he, rfl⟩ := List.mem_map.1 hf
    exact reads_writeLinkFrame (h.tells e (List.mem_append_right _ he)).sized
  obtain ⟨ys, hys, hrest⟩ := incremental_takeLinkFrame.take_stream rfl hreads hstream htake
  obtain ⟨e, es, hevents, he, rfl⟩ := List.map_eq_cons_iff.1 hys
  exact ⟨e, es, lost, hevents, he, by rw [hrest, List.flatMap_map], hlost⟩

/-- An event is read, wherever its object is known, as the server half meant it. -/
theorem tells_read {e : Told} {interface : Name} {spec : MessageSpec} {args : List DecodedArg} (he : e.Tells t g)
    (hg : g e.object = some interface)
    (hspec : t.event interface (opcodeField e.frame.wireBytes) = some spec)
    (hargs : decodeMessage spec.args (e.frame.wireBytes.drop 8) = some args) :
    interface = e.interface ∧ e.creates = creations args := by
  obtain rfl := Option.some.inj (hg.symm.trans he.object)
  obtain ⟨spec', args', hspec', hargs', hcreates⟩ := he.known
  obtain rfl := Option.some.inj (hspec.symm.trans hspec')
  obtain rfl := Option.some.inj (hargs.symm.trans hargs')
  exact ⟨rfl, hcreates⟩

theorem traffic_event (h : Traffic t g s) {c : ProxyClient} {made : Bool}
    (hc : s.client.extractAndForwardEvent t made = .on c) :
    Traffic t g { s with
      client := c
      events := s.events.tail
      passed := s.passed ++ s.events.head?.toList } := by
  obtain ⟨frame, rest, obj, spec, args, htake, hobj, hspec, hargs, rfl⟩ := extractAndForwardEvent_on hc
  obtain ⟨e, es, lost, hevents, rfl, hrest, hlost⟩ := h.head_event htake
  have hmem : e ∈ s.passed ++ s.events := by
    rw [hevents]
    exact List.mem_append_right _ List.mem_cons_self
  obtain ⟨hface, hcreates⟩ := tells_read (h.tells e hmem) (h.clientNamed _ obj hobj) hspec hargs
  have hlists : (s.passed ++ [e]) ++ es = s.passed ++ s.events := by
    rw [hevents, List.append_assoc, List.singleton_append]
  have horder := h.order
  rw [hevents] at horder ⊢
  rw [track_newIds _ _ (.inr (hface ▸ (h.tells e hmem).notDisplay))]
  have hkeeps : ∀ id, s.client.objects id ≠ none → insertNewIds s.client.objects args id ≠ none :=
    fun id hid => insertNewIds_ne_none (.inl hid)
  have hsame : ∀ e' : Told, e' ∈ (s.passed ++ [e]) ++ es ↔ e' ∈ s.passed ++ s.events := fun e' => by rw [hlists]
  exact { h with
    clientNamed := fun id o ho => by
      rcases insertNewIds_eq_some ho with ho | ho
      · exact ((h.tells e hmem).creates _ (hcreates ▸ ho)).1
      · exact h.clientNamed id o ho
    clientRoot := hkeeps _ h.clientRoot
    clientMade := fun r hr c hc => hkeeps _ (h.clientMade r hr c hc)
    clientTold := fun e' he' made hmade => by
      rcases List.mem_append.1 he' with he' | he'
      · exact hkeeps _ (h.clientTold e' he' made hmade)
      · obtain rfl := List.mem_singleton.1 he'
        exact insertNewIds_ne_none (.inr (hcreates ▸ List.mem_map_of_mem hmade))
    link := ⟨lost, (List.append_assoc _ _ _).trans hrest, hlost⟩
    tells := fun e' he' => h.tells e' ((hsame e').1 he')
    order := horder.2.mono fun id hid => by
      rcases hid with hid | hid
      · exact hkeeps _ hid
      · exact insertNewIds_ne_none (.inr (hcreates ▸ hid))
    pending := fun m hm => by
      have hearlier : (m ∈ s.app.read ∨ ∃ p ∈ s.client.pendingApp, p.bytes = m) ∨ e.frame.wireBytes = m := by
        rcases hm with hm | ⟨p, hp, rfl⟩
        · exact .inl (.inl hm)
        · rcases List.mem_append.1 hp with hp | hp
          · exact .inl (.inr ⟨p, hp, rfl⟩)
          · obtain rfl := List.mem_singleton.1 hp
            exact .inr rfl
      rcases hearlier with hm | hm
      · obtain ⟨e', he', hbytes⟩ := h.pending m hm
        exact ⟨e', List.mem_append_left _ he', hbytes⟩
      · exact ⟨e, List.mem_append_right _ (List.mem_singleton_self e), hm⟩
    origin := fun e' he' => h.origin e' ((hsame e').1 he')
    served := fun hl => by
      obtain ⟨n, hserved⟩ := h.served hl
      refine ⟨n, hserved.congr (fun _ _ h => h) (fun _ h h' => absurd h' h) (fun id => ?_) fun _ h => h⟩
      unfold Made
      dsimp only
      rw [show (s.passed ++ (e :: es).head?.toList ++ (e :: es).tail) = s.passed ++ s.events from hlists] }

theorem flushTxApp_spec {c c' : ProxyClient} {n : ℕ} {out : Option (List UInt8)}
    (h : c.flushTxApp n = some (c', out)) : (∃ pending, c' = { c with pendingApp := pending }) ∧
      (∀ p ∈ c'.pendingApp, ∃ p' ∈ c.pendingApp, p'.bytes = p.bytes) ∧
      ∀ m ∈ out, ∃ p ∈ c.pendingApp, p.bytes = m := by
  unfold ProxyClient.flushTxApp at h
  split at h
  · cases h
  next pending rest hpending =>
  split at h
  · cases h
  rw [hpending]
  split at h
  · obtain ⟨rfl, rfl⟩ := Prod.mk.inj (Option.some.inj h)
    refine ⟨⟨rest, rfl⟩, fun p hp => ⟨p, List.mem_cons_of_mem _ hp, rfl⟩, fun m hm => ?_⟩
    obtain rfl := Option.some.inj hm
    exact ⟨pending, List.mem_cons_self, rfl⟩
  · obtain ⟨rfl, rfl⟩ := Prod.mk.inj (Option.some.inj h)
    refine ⟨⟨_, rfl⟩, fun p hp => ?_, fun m hm => by cases hm⟩
    rcases List.mem_cons.1 hp with rfl | hp
    · exact ⟨pending, List.mem_cons_self, rfl⟩
    · exact ⟨p, List.mem_cons_of_mem _ hp, rfl⟩

theorem learn_eq (t : Tables) (objects : UInt32 → Option AppObject) (bytes : List UInt8) :
    App.learn t objects bytes = objects ∨ ∃ object spec args, objects (objectField bytes) = some object ∧
      t.event object.interface (opcodeField bytes) = some spec ∧ decodeMessage spec.args (bytes.drop 8) = some args ∧
      (object.interface ≠ displayName → App.learn t objects bytes = App.insert objects (creations args)) := by
  unfold App.learn
  split
  · exact .inl rfl
  next object hobject =>
  split
  · exact .inl rfl
  next spec hspec =>
  split
  · exact .inl rfl
  next args hargs =>
  refine .inr ⟨object, spec, args, hobject, hspec, hargs, fun hface => ?_⟩
  have hno : WaylandProxy.isDeleteId object.interface spec = false := by
    rw [WaylandProxy.isDeleteId, decide_eq_false hface, Bool.false_and]
  rw [hno]

/-- What the application learns from an event is what the server half meant. -/
theorem hear_objects (h : Traffic t g s) {m : List UInt8} (hm : ∃ e ∈ s.passed, e.frame.wireBytes = m) :
    (∀ id o, (s.app.hear t m).objects id = some o → s.app.objects id = some o ∨
      g id = some o.interface ∧ o.destroyed = false ∧ s.app.objects id = none ∧
        ∃ e ∈ s.passed, id ∈ e.creates.map Prod.fst) ∧
      ∀ id o, s.app.objects id = some o → (s.app.hear t m).objects id = some o := by
  obtain ⟨e, he, rfl⟩ := hm
  have htells := h.tells e (List.mem_append_left _ he)
  unfold App.hear
  dsimp only
  rcases learn_eq t s.app.objects e.frame.wireBytes with hsame | ⟨object, spec, args, hobject, hspec, hargs, hlearn⟩
  · rw [hsame]
    exact ⟨fun id o ho => .inl ho, fun id o ho => ho⟩
  · obtain ⟨hface, hcreates⟩ := tells_read htells (h.named _ object hobject) hspec hargs
    rw [hlearn (hface ▸ htells.notDisplay), ← hcreates]
    refine ⟨fun id o ho => ?_, fun id o ho => insert_of_some ho _⟩
    rcases hold : s.app.objects id with _ | o'
    · rcases insert_eq_some ho with ho | ⟨ho, hd⟩
      · cases hold.symm.trans ho
      · exact .inr ⟨(htells.creates _ ho).1, hd, rfl, e, he, List.mem_map_of_mem (f := Prod.fst) ho⟩
    · obtain rfl := Option.some.inj ((insert_of_some hold _).symm.trans ho)
      exact .inl rfl

theorem traffic_sendApp (h : Traffic t g s) {n : ℕ} {c : ProxyClient} {out : Option (List UInt8)}
    (hc : s.client.flushTxApp n = some (c, out)) :
    Traffic t g { s with client := c, app := out.elim s.app (s.app.hear t) } := by
  obtain ⟨⟨pending, rfl⟩, hkept, hout⟩ := flushTxApp_spec hc
  have hold : Traffic t g { s with client := { s.client with pendingApp := pending } } :=
    { h with
      pending := fun m hm => h.pending m (hm.imp_right fun ⟨p, hp, hbytes⟩ => by
        obtain ⟨p', hp', hsame⟩ := hkept p hp
        exact ⟨p', hp', hsame.trans hbytes⟩) }
  rcases out with _ | m
  · exact hold
  · have hm := h.pending m (.inr (hout m rfl))
    obtain ⟨hnew, hsame⟩ := hear_objects h hm
    exact { hold with
      written := h.written
      named := fun id o ho => by
        rcases hnew id o ho with ho | ⟨hname, -⟩
        · exact h.named id o ho
        · exact hname
      given := fun id hid hlt => by
        obtain ⟨o, ho⟩ := Option.ne_none_iff_exists'.1 (h.given id hid hlt)
        rw [show ((some m).elim s.app (s.app.hear t)).objects id = some o from hsame id o ho]
        exact Option.some_ne_none o
      pending := fun m' hm' => by
        rcases hm' with hm' | hm'
        · rcases List.mem_append.1 hm' with hm' | hm'
          · exact hold.pending m' (.inl hm')
          · obtain rfl := List.mem_singleton.1 hm'
            exact hm
        · exact hold.pending m' (.inr hm') }

theorem traffic_unlinked (h : Traffic t g s) {server : WaylandProxy} (hl : server.linked = false) (up : List UInt8)
    (refused : Option WaylandProxy.Refusal) : Traffic t g { s with server, up, refused } := by
  have hnot : ¬ server.linked = true := by
    rw [hl]
    exact Bool.false_ne_true
  obtain ⟨lost, hbytes, -⟩ := h.link
  exact { h with
    link := ⟨lost, hbytes, fun hl => absurd hl hnot⟩
    serverLink := fun hl => absurd hl hnot
    served := fun hl => absurd hl hnot }

theorem genericDispatcher_unlinked {S : WaylandProxy} (hl : S.linked = false) (p : Proxy) (id : UInt32)
    (event : Event) : (S.genericDispatcher t p id event).linked = false := by
  unfold WaylandProxy.genericDispatcher
  split
  · rfl
  · next spec _ =>
    have hwithin := (WaylandProxy.within_eventArgs spec.args event.args p.origin S).linked.trans hl
    dsimp only
    split
    · rfl
    · split
      · exact hwithin
      · exact hwithin

/-- What is asked of an event: the server-side ids do not run out, and 32 bits hold the length of what its
descriptors lead to. -/
def Bounded (t : Tables) (s : Relay) (event : Event) : Prop :=
  ∀ proxy, s.server.proxies event.target = some proxy →
    (∀ spec, t.event proxy.interface event.opcode = some spec → IdsLeft s.server (newIdCount spec.args)) ∧
      ∀ a ∈ event.args, a.h.length < 2 ^ 32

/-- What the server half made, the client half knows by the time an event of it arrives. -/
theorem Traffic.known_of_made (h : Traffic t g s) {id : UInt32} (hm : s.Made t id) :
    s.client.objects id ≠ none ∨ ∃ e ∈ s.events, id ∈ e.creates.map Prod.fst := by
  rcases hm with rfl | ⟨r, hr, -, hid⟩ | ⟨e, he, hid⟩
  · exact .inl h.clientRoot
  · obtain ⟨c, hc, rfl⟩ := List.mem_map.1 hid
    exact .inl (h.clientMade r (List.mem_append_left _ hr) c hc)
  · rcases List.mem_append.1 he with he | he
    · obtain ⟨c, hc, rfl⟩ := List.mem_map.1 hid
      exact .inl (h.clientTold e he c hc)
    · exact .inr ⟨e, he, hid⟩

theorem traffic_dispatch (h : Traffic t g s) (hT : t.Protocol) {event : Event} (hb : Bounded t s event)
    (hs : s.dispatchStep t event = some s') : ∃ g', Traffic t g' s' := by
  unfold dispatchStep at hs
  split at hs
  · cases hs
  next p hp =>
  split at hs
  · cases hs
  next id hid =>
  split at hs
  swap
  · cases hs
  next htyped =>
  have hstep : s.server.step t (.dispatch event) = some (s.server.genericDispatcher t p id event) := by
    unfold WaylandProxy.step
    dsimp only
    rw [hp]
    dsimp only
    rw [hid]
  rw [hstep] at hs
  obtain rfl := Option.some.inj hs
  obtain ⟨hleft, hblobs⟩ := hb p hp
  have hdropped : (s.server.genericDispatcher t p id event).linked = false → ∃ g', Traffic t g' { s with
      server := s.server.genericDispatcher t p id event
      events := if (s.server.genericDispatcher t p id event).linked then
        s.events ++ (s.server.told t p id event).toList else s.events } := by
    intro hl
    rw [if_neg (by rw [hl]; exact Bool.false_ne_true)]
    exact ⟨g, traffic_unlinked h hl s.up s.refused⟩
  rcases Bool.eq_false_or_eq_true s.server.linked with hl | hl
  swap
  · exact hdropped (genericDispatcher_unlinked hl p id event)
  obtain ⟨n, hserved⟩ := h.served hl
  obtain ⟨hname, hdisplay, hmade⟩ := hserved.names _ p id hp hid
  rcases htold : s.server.told t p id event with _ | e
  · have hdrop := genericDispatcher_told (t := t) (s := s.server) hdisplay id event
    rw [htold] at hdrop hdropped
    obtain ⟨s₁, hs₁⟩ := hdrop
    exact hdropped (by rw [hs₁]; rfl)
  · obtain ⟨n', hserved', htells, hobject, hfresh, hrx, hlinked, htx⟩ :=
      hserved.sent hp hid hT htyped hleft hblobs htold
    have hext := Naming.Extends.put hfresh
    dsimp only
    rw [if_pos (hlinked.trans hl)]
    refine ⟨putAll g e.creates, { h with
      root := hext _ _ h.root
      means := fun r hr => (h.means r hr).mono hext
      named := fun id o ho => hext _ _ (h.named id o ho)
      given := fun id hid hlt => ?_
      clientNamed := fun id o ho => hext _ _ (h.clientNamed id o ho)
      link := ?_
      tells := fun e' he' => ?_
      order := h.order.append (hobject ▸ h.known_of_made hmade)
      origin := fun e' he' hlt => ?_
      serverLink := fun _ => ?_
      served := fun _ => ⟨n', hserved'.congr (fun _ _ h => h) (fun _ h h' => absurd h' h) (fun x => ?_) fun _ h => h⟩ }⟩
    · obtain ⟨i, hi⟩ := Option.ne_none_iff_exists'.1 hid
      rcases putAll_eq_some hi with hi | hi
      · exact absurd hlt (UInt32.not_lt.2 (htells.creates _ hi).2)
      · exact h.given id (by rw [hi]; exact Option.some_ne_none i) hlt
    · obtain ⟨lost, hbytes, hlost⟩ := h.link
      refine ⟨lost ++ writeLinkFrame e.frame, ?_, fun _ => ?_⟩
      · show _ = (s.events ++ [e]).flatMap _
        rw [← List.append_assoc, hbytes, List.flatMap_append, List.flatMap_singleton]
      · rw [hlost hl, htx]
    · rw [← List.append_assoc] at he'
      rcases List.mem_append.1 he' with he' | he'
      · exact (h.tells e' he').mono hext
      · obtain rfl := List.mem_singleton.1 he'
        exact htells
    · rw [← List.append_assoc] at he'
      rcases List.mem_append.1 he' with he' | he'
      · exact h.origin e' he' hlt
      · obtain rfl := List.mem_singleton.1 he'
        rw [hobject] at hlt ⊢
        rcases hmade with rfl | ⟨r, hr, -, hid⟩ | ⟨e₁, he₁, hid⟩
        · exact absurd (Option.some.inj (h.root.symm.trans hname)).symm hdisplay
        · exact ⟨r, hr, hid⟩
        · obtain ⟨c, hc, rfl⟩ := List.mem_map.1 hid
          exact absurd hlt (UInt32.not_lt.2 ((h.tells e₁ he₁).creates c hc).2)
    · rw [hrx]
      exact h.serverLink hl
    · unfold Made
      dsimp only
      rw [Option.toList_some, ← List.append_assoc]
      constructor
      · rintro ((rfl | hr | ⟨e₁, he₁, hx⟩) | hx)
        · exact .inl rfl
        · exact .inr (.inl hr)
        · exact .inr (.inr ⟨e₁, List.mem_append_left _ he₁, hx⟩)
        · exact .inr (.inr ⟨e, List.mem_append_right _ (List.mem_singleton_self e), hx⟩)
      · rintro (rfl | hr | ⟨e₁, he₁, hx⟩)
        · exact .inl (.inl rfl)
        · exact .inl (.inr (.inl hr))
        · rcases List.mem_append.1 he₁ with he₁ | he₁
          · exact .inl (.inr (.inr ⟨e₁, he₁, hx⟩))
          · obtain rfl := List.mem_singleton.1 he₁
            exact .inr hx

/-- The frame the server half takes is the first request on the link. -/
theorem Traffic.head_request (h : Traffic t g s) (hl : s.server.linked = true) {frame : LinkFrame} {rest : List UInt8}
    (htake : takeLinkFrame s.server.rxBuf = .ok frame rest) :
    ∃ r rs, s.requests = r :: rs ∧ r.frame = frame ∧
      rest ++ (s.up ++ s.client.txLink) = rs.flatMap (fun r => writeLinkFrame r.frame) := by
  have hstream : s.server.rxBuf ++ (s.up ++ s.client.txLink) = (s.requests.map Request.frame).flatMap writeLinkFrame := by
    rw [← List.append_assoc, h.serverLink hl, List.flatMap_map]
  have hreads : ∀ f ∈ s.requests.map Request.frame, Reads takeLinkFrame writeLinkFrame f := by
    intro f hf
    obtain ⟨r, hr, rfl⟩ := List.mem_map.1 hf
    have hwhole := (h.means r (by
      rw [h.written]
      exact List.mem_append_left _ (List.mem_append_right _ hr))).whole
    have hlt : r.bytes.length < 2 ^ 32 := by
      rw [← hwhole.2]
      exact (sizeField r.bytes).toNat_lt.trans (by decide)
    exact reads_writeLinkFrame ⟨hlt, Nat.two_pow_pos 32, fun b hb => by cases hb⟩
  obtain ⟨ys, hys, hrest⟩ := incremental_takeLinkFrame.take_stream rfl hreads hstream htake
  obtain ⟨r, rs, hrequests, hr, rfl⟩ := List.map_eq_cons_iff.1 hys
  exact ⟨r, rs, hrequests, hr, by rw [hrest, List.flatMap_map]⟩

/-- What a turn of the server half's loop does: the link is dropped, or the first request is carried out. -/
theorem frameStep_cases {created : Bool} (h : Traffic t g s) (hs : s.frameStep t created = some s') :
    (∃ server refused, server.linked = false ∧ s' = { s with server, refused } ∧ (refused = s.refused ∨
      s.server.linked = true ∧ ∃ r rs rest, s.requests = r :: rs ∧ refused =
        (WaylandProxy.handleRequestFrame t { s.server with rxBuf := rest } r.frame created).1)) ∨
    (s.server.linked = true ∧ ∃ r rs rest, s.requests = r :: rs ∧ takeLinkFrame s.server.rxBuf = .ok r.frame rest ∧
      rest ++ (s.up ++ s.client.txLink) = rs.flatMap (fun r => writeLinkFrame r.frame) ∧
      (WaylandProxy.handleRequestFrame t { s.server with rxBuf := rest } r.frame created).1 = none ∧
      s' = { s with
        server := (WaylandProxy.handleRequestFrame t { s.server with rxBuf := rest } r.frame created).2
        requests := rs
        applied := s.applied ++ [r] }) := by
  unfold frameStep at hs
  obtain ⟨server, hstep, rfl⟩ := Option.map_eq_some_iff.1 hs
  unfold WaylandProxy.step at hstep
  dsimp only at hstep
  split at hstep
  swap
  · cases hstep
  next hl =>
  split at hstep
  · cases hstep
  · next hmal =>
    obtain rfl := Option.some.inj hstep
    rw [hmal]
    exact .inl ⟨_, s.refused, rfl, rfl, .inl rfl⟩
  · next frame rest htake =>
    obtain ⟨r, rs, hrequests, rfl, hrest⟩ := h.head_request hl htake
    rw [htake]
    dsimp only
    split at hstep
    · next refusal S hhandle =>
      obtain rfl := Option.some.inj hstep
      rw [hhandle]
      exact .inl ⟨_, some refusal, rfl, rfl, .inr ⟨hl, r, rs, rest, hrequests, (congrArg Prod.fst hhandle).symm⟩⟩
    · next S hhandle =>
      obtain rfl := Option.some.inj hstep
      refine .inr ⟨hl, r, rs, rest, hrequests, rfl, hrest, by rw [hhandle], ?_⟩
      rw [hhandle, hrequests]
      rfl

theorem traffic_frame (h : Traffic t g s) (hT : t.Protocol) {created : Bool} (hs : s.frameStep t created = some s') :
    Traffic t g s' := by
  rcases frameStep_cases h hs with ⟨server, refused, hl, rfl, -⟩ | ⟨hl, r, rs, rest, hrequests, -, hrest, hok, rfl⟩
  · exact traffic_unlinked h hl s.up refused
  have hmem : r ∈ s.applied ++ s.requests := by
    rw [hrequests]
    exact List.mem_append_right _ List.mem_cons_self
  have hmeans := h.means r (by rw [h.written]; exact List.mem_append_left _ hmem)
  obtain ⟨n, hserved⟩ := h.served hl
  have happlied := (hserved.received rest).applied hmeans hT (h.forwarded r hmem) hok
  have hwithin := WaylandProxy.within_handleRequestFrame t { s.server with rxBuf := rest } r.frame created
  have hlists : (s.applied ++ [r]) ++ rs = s.applied ++ s.requests := by
    rw [hrequests, List.append_assoc, List.singleton_append]
  obtain ⟨lost, hbytes, hlost⟩ := h.link
  exact { h with
    written := by
      show s.app.written = _
      rw [h.written, ← hlists]
    clientMade := fun r' hr' => h.clientMade r' (by rw [← hlists]; exact hr')
    forwarded := fun r' hr' => h.forwarded r' (by rw [← hlists]; exact hr')
    link := ⟨lost, hbytes, fun _ => by rw [hlost hl, hwithin.toSend]⟩
    origin := fun e he hlt => by
      obtain ⟨r', hr', hid⟩ := h.origin e he hlt
      exact ⟨r', List.mem_append_left _ hr', hid⟩
    serverLink := fun _ => by
      rw [rxBuf_handleRequestFrame, List.append_assoc]
      exact hrest
    served := fun _ => by
      refine ⟨n, happlied.congr (fun _ _ h => h) (fun _ h h' => absurd h' h) (fun x => ?_) fun x hx => ?_⟩
      · unfold Made
        dsimp only
        constructor
        · rintro ((rfl | ⟨r', hr', hx⟩ | he) | hx)
          · exact .inl rfl
          · exact .inr (.inl ⟨r', List.mem_append_left _ hr', hx⟩)
          · exact .inr (.inr he)
          · exact .inr (.inl ⟨r, List.mem_append_right _ (List.mem_singleton_self r), hx⟩)
        · rintro (rfl | ⟨r', hr', hx⟩ | he)
          · exact .inl (.inl rfl)
          · rcases List.mem_append.1 hr' with hr' | hr'
            · exact .inl (.inr (.inl ⟨r', hr', hx⟩))
            · obtain rfl := List.mem_singleton.1 hr'
              exact .inr hx
          · exact .inl (.inr (.inr he))
      · rcases hx with ⟨r', hr', hx⟩ | hx
        · exact ⟨r', List.mem_append_left _ hr', hx⟩
        · exact ⟨r, List.mem_append_right _ (List.mem_singleton_self r), hx⟩ }

theorem traffic_recv (h : Traffic t g s) {n : Option ℕ} {server : WaylandProxy}
    (hs : s.server.step t (.recv (n.map s.up.take)) = some server) :
    Traffic t g { s with server, up := s.up.drop (n.getD 0) } := by
  unfold WaylandProxy.step at hs
  dsimp only at hs
  split at hs
  swap
  · cases hs
  next hl =>
  rcases n with _ | n
  · obtain rfl := Option.some.inj hs
    exact traffic_unlinked h rfl _ s.refused
  · obtain rfl := Option.some.inj hs
    exact { h with
      serverLink := fun _ => by
        show s.server.rxBuf ++ s.up.take n ++ s.up.drop n ++ s.client.txLink = _
        rw [List.append_assoc s.server.rxBuf, List.take_append_drop]
        exact h.serverLink hl
      served := fun _ => by
        obtain ⟨k, hserved⟩ := h.served hl
        exact ⟨k, hserved.received _⟩ }

theorem traffic_send (h : Traffic t g s) {n : Option ℕ} {server : WaylandProxy}
    (hs : s.server.step t (.send n) = some server) :
    Traffic t g { s with server, down := s.down ++ ((s.server.txBuf.take (n.getD 0)).map (·.byte)) } := by
  unfold WaylandProxy.step at hs
  dsimp only at hs
  split at hs
  swap
  · cases hs
  next hl =>
  obtain ⟨lost, hbytes, hlost⟩ := h.link
  have hdropped : ∀ n : Option ℕ, n.getD 0 = 0 → Traffic t g { s with
      server := s.server.dropLink, down := s.down ++ ((s.server.txBuf.take (n.getD 0)).map (·.byte)) } := by
    intro n hn
    rw [hn, List.take_zero, List.map_nil, List.append_nil]
    exact traffic_unlinked h rfl s.up s.refused
  split at hs
  · next n =>
    obtain rfl := Option.some.inj hs
    obtain ⟨k, hserved⟩ := h.served hl.1
    exact { h with
      link := ⟨(s.server.txBuf.drop (n + 1)).map (·.byte), by
        rw [← hbytes, hlost hl.1, ← List.append_assoc s.client.rxLink, List.append_assoc (_ ++ s.down), ← List.map_append,
          Option.getD_some, List.take_append_drop], fun _ => rfl⟩
      served := fun _ => ⟨k, ⟨hserved.display, hserved.numbered, hserved.next, hserved.bound, hserved.below,
        hserved.names, hserved.entries, hserved.live, hserved.kept⟩⟩ }
  · next hn =>
    obtain rfl := Option.some.inj hs
    refine hdropped n ?_
    rcases n with _ | _ | n
    · rfl
    · rfl
    · exact absurd rfl (hn n)

/-- What an action needs for the queues and tables to stay in order: only of events is something asked. -/
def Steady (t : Tables) (s : Relay) : Action → Prop
  | .dispatch event => Bounded t s event
  | _ => True

theorem traffic_turned (h : Traffic t g s) {turn : Turn} {next : ProxyClient → Relay}
    (hon : ∀ c, turn = .on c → Traffic t g (next c)) (hs : s.turned next turn = some s') : Traffic t g s' := by
  cases turn with
  | wait => cases hs
  | ended why =>
    obtain rfl := Option.some.inj hs
    exact { h with written := h.written }
  | on c =>
    obtain rfl := Option.some.inj hs
    exact hon c rfl

theorem traffic_clientStep (h : Traffic t g s) {a : Action} (hs : s.clientStep t a = some s') : Traffic t g s' := by
  unfold clientStep at hs
  cases a with
  | recvApp n =>
    obtain rfl := Option.some.inj hs
    exact { h with
      socket := by
        show s.client.rxApp ++ s.appSocket.take n ++ s.appSocket.drop n = _
        rw [List.append_assoc, List.take_append_drop, h.socket] }
  | request => exact traffic_turned h (fun c hc => traffic_request h hc) hs
  | sendLink n =>
    obtain rfl := Option.some.inj hs
    exact { h with
      serverLink := fun hl => by
        show s.server.rxBuf ++ (s.up ++ s.client.txLink.take n) ++ s.client.txLink.drop n = _
        rw [← List.append_assoc, List.append_assoc _ (List.take _ _), List.take_append_drop, h.serverLink hl] }
  | recvLink n =>
    obtain rfl := Option.some.inj hs
    obtain ⟨lost, hbytes, hlost⟩ := h.link
    exact { h with
      link := ⟨lost, by
        show s.client.rxLink ++ s.down.take n ++ s.down.drop n ++ lost = _
        rw [List.append_assoc s.client.rxLink, List.take_append_drop, hbytes], hlost⟩ }
  | event made => exact traffic_turned h (fun c hc => traffic_event h hc) hs
  | sendApp n =>
    obtain ⟨⟨c, out⟩, hc, rfl⟩ := Option.map_eq_some_iff.1 hs
    exact traffic_sendApp h hc
  | fail =>
    obtain rfl := Option.some.inj hs
    exact { h with written := h.written }
  | _ => cases hs

theorem traffic_step (h : Traffic t g s) (hT : t.Protocol) {a : Action} (ha : Steady t s a)
    (hs : step t s a = some s') : ∃ g', Traffic t g' s' := by
  unfold step at hs
  have hclient : (if s.ended.isSome then none else s.clientStep t a) = some s' → ∃ g', Traffic t g' s' := by
    intro hs
    split at hs
    · cases hs
    · exact ⟨g, traffic_clientStep h hs⟩
  cases a with
  | write bytes =>
    obtain ⟨r, hr, rfl⟩ := Option.map_eq_some_iff.1 hs
    exact ⟨_, traffic_write h hr⟩
  | dispatch event => exact traffic_dispatch h hT ha hs
  | recv n =>
    obtain ⟨server, hserver, rfl⟩ := Option.map_eq_some_iff.1 hs
    exact ⟨g, traffic_recv h hserver⟩
  | frame created => exact ⟨g, traffic_frame h hT hs⟩
  | send n =>
    obtain ⟨server, hserver, rfl⟩ := Option.map_eq_some_iff.1 hs
    exact ⟨g, traffic_send h hserver⟩
  | _ => exact hclient hs

theorem turned_written {turn : Turn} {next : ProxyClient → Relay} (hnext : ∀ c, (next c).app = s.app)
    (hs : s.turned next turn = some s') : s'.app.written = s.app.written := by
  cases turn with
  | wait => cases hs
  | ended why =>
    obtain rfl := Option.some.inj hs
    rfl
  | on c =>
    obtain rfl := Option.some.inj hs
    rw [hnext]

theorem clientStep_written {a : Action} (hs : s.clientStep t a = some s') : s'.app.written = s.app.written := by
  unfold clientStep at hs
  cases a with
  | recvApp n | sendLink n | recvLink n | fail =>
    obtain rfl := Option.some.inj hs
    rfl
  | request =>
    change s.turned _ _ = some s' at hs
    refine turned_written ?_ hs
    intro c
    rfl
  | event made =>
    change s.turned _ _ = some s' at hs
    refine turned_written ?_ hs
    intro c
    rfl
  | sendApp n =>
    obtain ⟨⟨c, out⟩, -, rfl⟩ := Option.map_eq_some_iff.1 hs
    cases out <;> rfl
  | _ => cases hs

/-- Requests are written by the application and by nobody else. -/
theorem step_written {a : Action} (hs : step t s a = some s') : s'.app.written = s.app.written ∨
    ∃ bytes r, a = .write bytes ∧ s.app.request t bytes = some r ∧ s'.app.written = s.app.written ++ [r] := by
  unfold step at hs
  have hclient : (if s.ended.isSome then none else s.clientStep t a) = some s' →
      s'.app.written = s.app.written := by
    intro hs
    split at hs
    · cases hs
    · exact clientStep_written hs
  cases a with
  | write bytes =>
    obtain ⟨r, hr, rfl⟩ := Option.map_eq_some_iff.1 hs
    exact .inr ⟨bytes, r, rfl, hr, rfl⟩
  | dispatch event =>
    left
    unfold dispatchStep at hs
    dsimp only at hs
    split at hs
    · cases hs
    split at hs
    · cases hs
    split at hs
    · obtain ⟨server, -, rfl⟩ := Option.map_eq_some_iff.1 hs
      rfl
    · cases hs
  | recv n | send n =>
    obtain ⟨server, -, rfl⟩ := Option.map_eq_some_iff.1 hs
    exact .inl rfl
  | frame created =>
    left
    obtain ⟨server, -, rfl⟩ := Option.map_eq_some_iff.1 hs
    split
    · split
      · rfl
      · rfl
    · rfl
  | _ => exact .inl (hclient hs)

end

end Relay

end VkRemote.Wayland
