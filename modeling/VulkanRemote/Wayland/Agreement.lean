import VulkanRemote.Wayland.SurfaceOrder

/-! Both halves keep a table of the objects, each from the traffic it sees. What is on its way to a half is for
objects its table has by the time it arrives there, under the interface it had where it was sent. -/

namespace VkRemote.Wayland

open Lib

/-- The objects after a request, to a table that only grows. -/
def sees (known : UInt32 → Prop) (r : Request) : UInt32 → Prop :=
  fun id => known id ∨ id ∈ r.creates.map Prod.fst

/-- The objects after a request, to a table that forgets what is destroyed. -/
def keeps (known : UInt32 → Prop) (r : Request) : UInt32 → Prop :=
  fun id => known id ∧ ¬ (r.destroys = true ∧ id = r.object) ∨ id ∈ r.creates.map Prod.fst

/-- Each request is for an object that is known when its turn comes. -/
def Resolves (next : (UInt32 → Prop) → Request → UInt32 → Prop) : (UInt32 → Prop) → List Request → Prop
  | _, [] => True
  | known, r :: rs => known r.object ∧ Resolves next (next known r) rs

/-- A table that knows more, knows more after a request. -/
def Grows (next : (UInt32 → Prop) → Request → UInt32 → Prop) : Prop :=
  ∀ r known known', (∀ id, known id → known' id) → ∀ id, next known r id → next known' r id

section

variable {next : (UInt32 → Prop) → Request → UInt32 → Prop} {known known' : UInt32 → Prop} {rs : List Request}

theorem grows_sees : Grows sees := fun _ _ _ h id hid => hid.imp_left (h id)

theorem grows_keeps : Grows keeps := fun _ _ _ h id hid => hid.imp_left (And.imp_left (h id))

theorem Grows.foldl (hnext : Grows next) (h : ∀ id, known id → known' id) :
    ∀ id, rs.foldl next known id → rs.foldl next known' id := by
  induction rs generalizing known known' with
  | nil => exact h
  | cons r rs ih => exact ih (hnext r known known' h)

theorem Resolves.mono (hr : Resolves next known rs) (hnext : Grows next) (h : ∀ id, known id → known' id) :
    Resolves next known' rs := by
  induction rs generalizing known known' with
  | nil => trivial
  | cons r rs ih => exact ⟨h _ hr.1, ih hr.2 (hnext r known known' h)⟩

theorem Resolves.append {r : Request} (h : Resolves next known rs) (hr : rs.foldl next known r.object) :
    Resolves next known (rs ++ [r]) := by
  induction rs generalizing known with
  | nil => exact ⟨hr, trivial⟩
  | cons r' rs ih => exact ⟨h.1, ih h.2 hr⟩

theorem foldl_sees {id : UInt32} (h : known id) : rs.foldl sees known id := by
  induction rs generalizing known with
  | nil => exact h
  | cons r rs ih => exact ih (.inl h)

theorem foldl_keeps {id : UInt32} (h : known id) (hr : ∀ r ∈ rs, r.object ≠ id) : rs.foldl keeps known id := by
  induction rs generalizing known with
  | nil => exact h
  | cons r rs ih =>
    refine ih (.inl ⟨h, fun hd => hr r List.mem_cons_self hd.2.symm⟩) fun r' hr' => ?_
    exact hr r' (List.mem_cons_of_mem _ hr')

end

namespace Relay

/-- The server half was told to make it, and not to destroy it. -/
def Standing (t : Tables) (s : Relay) (id : UInt32) : Prop := s.Made t id ∧ ¬ s.Gone id

/-- The request is in the tables, and it makes nothing if the server half has no proxy for its object. -/
def Asks (t : Tables) (r : Request) : Prop :=
  t.request r.interface (opcodeField r.bytes) ≠ none ∧ (r.OnStub t → r.creates = [])

/-- Both tables against the application's: each request on its way is for an object that is in the table it will
be looked up in. -/
structure Agreed (t : Tables) (s : Relay) : Prop where
  asks : ∀ r ∈ s.app.written, Asks t r
  heard : ∀ r ∈ s.app.written, s.app.objects r.object ≠ none
  apart : s.app.written.Pairwise fun r r' => r.object ∉ r'.creates.map Prod.fst
  clientSees : ∀ id, s.app.objects id ≠ none → s.unsent.foldl sees (fun id => s.client.objects id ≠ none) id
  clientOrder : Resolves sees (fun id => s.client.objects id ≠ none) s.unsent
  forwarded : ∀ r ∈ s.applied ++ s.requests, s.client.objects r.object ≠ none
  serverKeeps : ∀ id o, s.app.objects id = some o → o.destroyed = false →
    (s.requests ++ s.unsent).foldl keeps (s.Standing t) id
  serverOrder : Resolves keeps (s.Standing t) (s.requests ++ s.unsent)
  ended : s.ended ≠ some .unknownObject ∧ s.ended ≠ some .unknownRequest
  refused : s.refused ≠ some .unknownObject ∧ s.refused ≠ some .unknownRequest

section

variable {t : Tables} {g : Naming} {s s' : Relay}

theorem agreed_start (t : Tables) : Agreed t {} where
  asks r hr := by cases hr
  heard r hr := by cases hr
  apart := .nil
  clientSees id hid := by
    have hobject : Function.update (fun _ => none) 1 (some (⟨displayName, false⟩ : AppObject)) id ≠ none := hid
    rw [Function.update_apply] at hobject
    split at hobject
    · next heq =>
      subst heq
      exact Option.some_ne_none _
    · exact absurd rfl hobject
  clientOrder := trivial
  forwarded r hr := by cases hr
  serverKeeps id o ho _ := by
    have hobject : Function.update (fun _ => none) 1 (some ⟨displayName, false⟩) id = some o := ho
    rw [Function.update_apply] at hobject
    split at hobject
    · next heq => exact ⟨.inl heq, fun ⟨r, hr, _⟩ => by cases hr⟩
    · cases hobject
  serverOrder := trivial
  ended := ⟨by rintro ⟨⟩, by rintro ⟨⟩⟩
  refused := ⟨by rintro ⟨⟩, by rintro ⟨⟩⟩

theorem Standing.mono {id : UInt32} (h : s.Standing t id) (happlied : s'.applied = s.applied)
    (htold : ∀ e ∈ s.passed ++ s.events, e ∈ s'.passed ++ s'.events) : s'.Standing t id := by
  obtain ⟨hmade, hgone⟩ := h
  refine ⟨?_, fun ⟨r, hr, hid⟩ => hgone ⟨r, happlied ▸ hr, hid⟩⟩
  rcases hmade with hid | ⟨r, hr, hid⟩ | ⟨e, he, hid⟩
  · exact .inl hid
  · exact .inr (.inl ⟨r, happlied ▸ hr, hid⟩)
  · exact .inr (.inr ⟨e, htold e he, hid⟩)

/-- Bytes move, events come, and nothing is asked for. -/
theorem Agreed.moved (h : Agreed t s) (happ : s'.app = s.app) (hunsent : s'.unsent = s.unsent)
    (hrequests : s'.requests = s.requests) (happlied : s'.applied = s.applied)
    (htold : ∀ e ∈ s.passed ++ s.events, e ∈ s'.passed ++ s'.events)
    (hclient : ∀ id, s.client.objects id ≠ none → s'.client.objects id ≠ none)
    (hended : s'.ended ≠ some .unknownObject ∧ s'.ended ≠ some .unknownRequest)
    (hrefused : s'.refused ≠ some .unknownObject ∧ s'.refused ≠ some .unknownRequest) : Agreed t s' where
  asks := happ ▸ h.asks
  heard := happ ▸ h.heard
  apart := happ ▸ h.apart
  clientSees id hid := by
    rw [hunsent]
    exact grows_sees.foldl hclient id (h.clientSees id (happ ▸ hid))
  clientOrder := by
    rw [hunsent]
    exact h.clientOrder.mono grows_sees hclient
  forwarded r hr := hclient _ (h.forwarded r (by rwa [happlied, hrequests] at hr))
  serverKeeps id o ho hd := by
    rw [hrequests, hunsent]
    exact grows_keeps.foldl (fun id hid => hid.mono happlied htold) id (h.serverKeeps id o (happ ▸ ho) hd)
  serverOrder := by
    rw [hrequests, hunsent]
    exact h.serverOrder.mono grows_keeps fun id hid => hid.mono happlied htold
  ended := hended
  refused := hrefused

theorem agreed_write (h : Agreed t s) (ht : Traffic t g s) {bytes : List UInt8} {r : Request}
    (hr : s.app.request t bytes = some r) (hasks : Asks t r) :
    Agreed t { s with app := s.app.write r, appSocket := s.appSocket ++ bytes, unsent := s.unsent ++ [r] } := by
  obtain ⟨-, hfresh, ⟨o, ho, -, hlive⟩, -⟩ := means_of_request ht hr
  have hknown : ∀ id, (s.app.write r).objects id ≠ none → s.app.objects id ≠ none ∨ id ∈ r.creates.map Prod.fst := by
    intro id hid
    obtain ⟨o', ho'⟩ := Option.ne_none_iff_exists'.1 hid
    rcases insert_eq_some ho' with ho' | ⟨ho', -⟩
    · left
      split at ho'
      · rw [Function.update_apply] at ho'
        split at ho'
        · next heq =>
          rw [heq, ho]
          exact Option.some_ne_none o
        · rw [ho']
          exact Option.some_ne_none o'
      · rw [ho']
        exact Option.some_ne_none o'
    · exact .inr (List.mem_map_of_mem (f := Prod.fst) ho')
  exact { h with
    asks := fun r' hr' => by
      rcases List.mem_append.1 hr' with hr' | hr'
      · exact h.asks r' hr'
      · obtain rfl := List.mem_singleton.1 hr'
        exact hasks
    heard := fun r' hr' => by
      rcases List.mem_append.1 hr' with hr' | hr'
      · exact written_objects.1 (h.heard r' hr')
      · obtain rfl := List.mem_singleton.1 hr'
        exact written_objects.1 (by rw [ho]; exact Option.some_ne_none o)
    apart := by
      show (s.app.written ++ [r]).Pairwise _
      refine List.pairwise_append.2 ⟨h.apart, List.pairwise_singleton _ _, fun r' hr' r'' hr'' hmem => ?_⟩
      obtain rfl := List.mem_singleton.1 hr''
      obtain ⟨c, hc, heq⟩ := List.mem_map.1 hmem
      exact h.heard r' hr' (heq ▸ (hfresh.1 c hc).2.2.1)
    clientSees := fun id hid => by
      rw [List.foldl_append]
      exact (hknown id hid).imp_left (h.clientSees id)
    clientOrder := h.clientOrder.append (h.clientSees _ (by rw [ho]; exact Option.some_ne_none o))
    serverKeeps := fun id o' ho' hd => by
      rw [← List.append_assoc, List.foldl_append]
      rcases insert_eq_some ho' with ho' | ⟨ho', -⟩
      · left
        split at ho'
        · rw [Function.update_apply] at ho'
          split at ho'
          · obtain rfl := Option.some.inj ho'
            cases hd
          · next hne => exact ⟨h.serverKeeps id o' ho' hd, fun hgone => hne hgone.2⟩
        · next hkept => exact ⟨h.serverKeeps id o' ho' hd, fun hgone => hkept hgone.1⟩
      · exact .inr (List.mem_map_of_mem (f := Prod.fst) ho')
    serverOrder := by
      show Resolves keeps _ (s.requests ++ (s.unsent ++ [r]))
      rw [← List.append_assoc]
      exact h.serverOrder.append (h.serverKeeps _ o ho hlive) }

theorem agreed_sendApp (h : Agreed t s) (ht : Traffic t g s) {n : ℕ} {c : ProxyClient} {out : Option (List UInt8)}
    (hc : s.client.flushTxApp n = some (c, out)) :
    Agreed t { s with client := c, app := out.elim s.app (s.app.hear t) } := by
  obtain ⟨⟨pending, rfl⟩, -, hout⟩ := flushTxApp_spec hc
  rcases out with _ | m
  · exact h.moved rfl rfl rfl rfl (fun _ h => h) (fun _ h => h) h.ended h.refused
  obtain ⟨hnew, hsame⟩ := hear_objects ht (ht.pending m (.inr (hout m rfl)))
  exact { h with
    heard := fun r hr => by
      obtain ⟨o, ho⟩ := Option.ne_none_iff_exists'.1 (h.heard r hr)
      show (s.app.hear t m).objects r.object ≠ none
      rw [hsame _ o ho]
      exact Option.some_ne_none o
    clientSees := fun id hid => by
      obtain ⟨o, ho⟩ := Option.ne_none_iff_exists'.1 hid
      rcases hnew id o ho with ho | ⟨-, -, -, e, he, htold⟩
      · exact h.clientSees id (by rw [ho]; exact Option.some_ne_none o)
      · obtain ⟨made, hmade, rfl⟩ := List.mem_map.1 htold
        exact foldl_sees (ht.clientTold e he made hmade)
    serverKeeps := fun id o ho hd => by
      rcases hnew id o ho with ho | ⟨-, -, hnone, e, he, hmade⟩
      · exact h.serverKeeps id o ho hd
      -- nothing was asked of an object the application hears of now
      · have hunasked : ∀ r ∈ s.app.written, r.object ≠ id := fun r hr heq => h.heard r hr (heq ▸ hnone)
        rw [ht.written] at hunasked
        refine foldl_keeps ⟨.inr (.inr ⟨e, List.mem_append_left _ he, hmade⟩), fun ⟨r, hr, _, heq⟩ => ?_⟩ fun r hr => ?_
        · exact hunasked r (by rw [List.append_assoc]; exact List.mem_append_left _ hr) heq.symm
        · exact hunasked r (by rw [List.append_assoc]; exact List.mem_append_right _ hr) }

/-- Why a turn over requests ends the client half. -/
theorem extractAndForwardRequest_ended {c : ProxyClient} {why : Ending} (h : c.extractAndForwardRequest t = .ended why) :
    (why = .unknownObject → ∃ whole rest, takeWireMessage c.rxApp = .ok whole rest ∧
      c.objects (objectField whole) = none) ∧
    (why = .unknownRequest → ∃ whole rest obj, takeWireMessage c.rxApp = .ok whole rest ∧
      c.objects (objectField whole) = some obj ∧ t.request obj.interface (opcodeField whole) = none) := by
  unfold ProxyClient.extractAndForwardRequest at h
  split at h
  · cases h
  · obtain rfl := Turn.ended.inj h
    exact ⟨fun hc => (by cases hc), fun hc => (by cases hc)⟩
  next whole rest htake =>
  split at h
  · next hobj =>
    obtain rfl := Turn.ended.inj h
    exact ⟨fun _ => ⟨whole, rest, htake, hobj⟩, fun hc => (by cases hc)⟩
  next obj hobj =>
  split at h
  · next hspec =>
    obtain rfl := Turn.ended.inj h
    exact ⟨fun hc => (by cases hc), fun _ => ⟨whole, rest, obj, htake, hobj, hspec⟩⟩
  split at h
  · obtain rfl := Turn.ended.inj h
    exact ⟨fun hc => (by cases hc), fun hc => (by cases hc)⟩
  split at h
  · obtain rfl := Turn.ended.inj h
    exact ⟨fun hc => (by cases hc), fun hc => (by cases hc)⟩
  · cases h

/-- Why a turn over events ends the client half. -/
theorem extractAndForwardEvent_ended {c : ProxyClient} {made : Bool} {why : Ending}
    (h : c.extractAndForwardEvent t made = .ended why) : why ≠ .unknownRequest ∧
    (why = .unknownObject → ∃ frame rest, takeLinkFrame c.rxLink = .ok frame rest ∧
      c.objects (objectField frame.wireBytes) = none) := by
  unfold ProxyClient.extractAndForwardEvent at h
  split at h
  · cases h
  · obtain rfl := Turn.ended.inj h
    exact ⟨by rintro ⟨⟩, fun hc => (by cases hc)⟩
  next frame rest htake =>
  split at h
  · obtain rfl := Turn.ended.inj h
    exact ⟨by rintro ⟨⟩, fun hc => (by cases hc)⟩
  split at h
  · next hobj =>
    obtain rfl := Turn.ended.inj h
    exact ⟨by rintro ⟨⟩, fun _ => ⟨frame, rest, htake, hobj⟩⟩
  split at h
  · obtain rfl := Turn.ended.inj h
    exact ⟨by rintro ⟨⟩, fun hc => (by cases hc)⟩
  split at h
  · obtain rfl := Turn.ended.inj h
    exact ⟨by rintro ⟨⟩, fun hc => (by cases hc)⟩
  split at h
  · obtain rfl := Turn.ended.inj h
    exact ⟨by rintro ⟨⟩, fun hc => (by cases hc)⟩
  split at h
  · obtain rfl := Turn.ended.inj h
    exact ⟨by rintro ⟨⟩, fun hc => (by cases hc)⟩
  · cases h

/-- The client half knows the object of the first request it has not taken. -/
theorem Agreed.head_known (h : Agreed t s) (ht : Traffic t g s) {whole rest : List UInt8}
    (htake : takeWireMessage s.client.rxApp = .ok whole rest) : ∃ r rs obj, s.unsent = r :: rs ∧ r.bytes = whole ∧
      s.client.objects (objectField whole) = some obj ∧ obj.interface = r.interface ∧
      t.request obj.interface (opcodeField whole) ≠ none := by
  obtain ⟨r, rs, hunsent, rfl, -⟩ := ht.head_unsent htake
  have hmem : r ∈ s.app.written := by
    rw [ht.written, hunsent]
    exact List.mem_append_right _ List.mem_cons_self
  have horder := h.clientOrder
  rw [hunsent] at horder
  obtain ⟨obj, hobj⟩ := Option.ne_none_iff_exists'.1 horder.1
  have hface : obj.interface = r.interface :=
    Option.some.inj ((ht.clientNamed _ obj hobj).symm.trans (ht.means r hmem).object)
  exact ⟨r, rs, obj, hunsent, rfl, hobj, hface, hface ▸ (h.asks r hmem).1⟩

theorem agreed_request (h : Agreed t s) (ht : Traffic t g s) (hs : s.clientStep t .request = some s') :
    Agreed t s' := by
  unfold clientStep at hs
  dsimp only at hs
  cases hturn : s.client.extractAndForwardRequest t with
  | wait =>
    rw [hturn] at hs
    cases hs
  | ended why =>
    rw [hturn] at hs
    obtain rfl := Option.some.inj hs
    obtain ⟨hobject, hrequest⟩ := extractAndForwardRequest_ended hturn
    refine h.moved rfl rfl rfl rfl (fun _ h => h) (fun _ h => h) ⟨fun hwhy => ?_, fun hwhy => ?_⟩ h.refused
    · obtain ⟨whole, rest, htake, hnone⟩ := hobject (Option.some.inj hwhy)
      obtain ⟨r, rs, obj, -, -, hobj, -⟩ := h.head_known ht htake
      cases hnone.symm.trans hobj
    · obtain ⟨whole, rest, obj, htake, hobj, hnone⟩ := hrequest (Option.some.inj hwhy)
      obtain ⟨r, rs, obj', -, -, hobj', -, hspec⟩ := h.head_known ht htake
      obtain rfl := Option.some.inj (hobj.symm.trans hobj')
      exact hspec hnone
  | on c =>
    have hafter := traffic_request ht hturn
    rw [hturn] at hs
    obtain rfl := Option.some.inj hs
    obtain ⟨whole, rest, obj, spec, args, htake, hobj, -, -, rfl⟩ := extractAndForwardRequest_on hturn
    obtain ⟨r, rs, -, hunsent, rfl, -⟩ := h.head_known ht htake
    dsimp only
    rw [hunsent] at hafter ⊢
    have hgrows : ∀ id, s.client.objects id ≠ none → insertNewIds s.client.objects args id ≠ none :=
      fun id hid => insertNewIds_ne_none (.inl hid)
    have hnext : ∀ id, sees (fun id => s.client.objects id ≠ none) r id → insertNewIds s.client.objects args id ≠ none := by
      intro id hid
      rcases hid with hid | hid
      · exact hgrows id hid
      · obtain ⟨made, hmade, rfl⟩ := List.mem_map.1 hid
        exact hafter.clientMade r (by simp) made hmade
    have hsees := h.clientSees
    have horder := h.clientOrder
    have hkeeps := h.serverKeeps
    have hresolves := h.serverOrder
    rw [hunsent] at hsees horder hkeeps hresolves
    have hlists : s.requests ++ [r] ++ rs = s.requests ++ r :: rs := by rw [List.append_assoc, List.singleton_append]
    exact { h with
      clientSees := fun id hid => grows_sees.foldl hnext id (hsees id hid)
      clientOrder := horder.2.mono grows_sees hnext
      forwarded := fun r' hr' => by
        rw [← List.append_assoc] at hr'
        rcases List.mem_append.1 hr' with hr' | hr'
        · exact hgrows _ (h.forwarded r' hr')
        · obtain rfl := List.mem_singleton.1 hr'
          exact hgrows _ horder.1
      serverKeeps := fun id o ho hd => by
        show (s.requests ++ [r] ++ rs).foldl keeps _ id
        rw [hlists]
        exact hkeeps id o ho hd
      serverOrder := by
        show Resolves keeps _ (s.requests ++ [r] ++ rs)
        rw [hlists]
        exact hresolves }

theorem agreed_event (h : Agreed t s) (ht : Traffic t g s) {made : Bool}
    (hs : s.clientStep t (.event made) = some s') : Agreed t s' := by
  unfold clientStep at hs
  dsimp only at hs
  cases hturn : s.client.extractAndForwardEvent t made with
  | wait =>
    rw [hturn] at hs
    cases hs
  | ended why =>
    rw [hturn] at hs
    obtain rfl := Option.some.inj hs
    obtain ⟨hrequest, hobject⟩ := extractAndForwardEvent_ended hturn
    refine h.moved rfl rfl rfl rfl (fun _ h => h) (fun _ h => h) ⟨fun hwhy => ?_, fun hwhy => ?_⟩ h.refused
    · obtain ⟨frame, rest, htake, hnone⟩ := hobject (Option.some.inj hwhy)
      obtain ⟨e, es, lost, hevents, rfl, -⟩ := ht.head_event htake
      have horder := ht.order
      rw [hevents] at horder
      exact horder.1 hnone
    · exact hrequest (Option.some.inj hwhy)
  | on c =>
    rw [hturn] at hs
    obtain rfl := Option.some.inj hs
    obtain ⟨frame, rest, obj, spec, args, htake, hobj, hspec, hargs, rfl⟩ := extractAndForwardEvent_on hturn
    obtain ⟨e, es, lost, hevents, rfl, -⟩ := ht.head_event htake
    have hmem : e ∈ s.passed ++ s.events := by
      rw [hevents]
      exact List.mem_append_right _ List.mem_cons_self
    obtain ⟨hface, -⟩ := tells_read (ht.tells e hmem) (ht.clientNamed _ obj hobj) hspec hargs
    refine h.moved rfl rfl rfl rfl (fun e' he' => ?_) (fun id hid => ?_) h.ended h.refused
    · show e' ∈ s.passed ++ s.events.head?.toList ++ s.events.tail
      rw [hevents] at he' ⊢
      rw [List.append_assoc]
      exact he'
    · show trackObjectLifetime _ _ _ _ _ id ≠ none
      rw [track_newIds _ _ (.inr (hface ▸ (ht.tells e hmem).notDisplay))]
      exact insertNewIds_ne_none (.inl hid)

theorem agreed_clientStep (h : Agreed t s) (ht : Traffic t g s) {a : Action} (hs : s.clientStep t a = some s') :
    Agreed t s' := by
  cases a with
  | recvApp n | sendLink n | recvLink n =>
    obtain rfl := Option.some.inj hs
    exact h.moved rfl rfl rfl rfl (fun _ h => h) (fun _ h => h) h.ended h.refused
  | request => exact agreed_request h ht hs
  | event made => exact agreed_event h ht hs
  | sendApp n =>
    obtain ⟨⟨c, out⟩, hc, rfl⟩ := Option.map_eq_some_iff.1 hs
    exact agreed_sendApp h ht hc
  | fail =>
    obtain rfl := Option.some.inj hs
    exact h.moved rfl rfl rfl rfl (fun _ h => h) (fun _ h => h) ⟨by rintro ⟨⟩, by rintro ⟨⟩⟩ h.refused
  | _ => cases hs

/-- Why a request is refused. -/
theorem handleRequestFrame_refused (t : Tables) (S : WaylandProxy) (frame : LinkFrame) (created : Bool) :
    ((S.handleRequestFrame t frame created).1 = some .unknownObject → S.objects (objectField frame.wireBytes) = none) ∧
    ((S.handleRequestFrame t frame created).1 = some .unknownRequest → ∃ entry,
      S.objects (objectField frame.wireBytes) = some entry ∧
      t.request entry.interface (opcodeField frame.wireBytes) = none) := by
  unfold WaylandProxy.handleRequestFrame
  dsimp only
  split
  · exact ⟨fun hc => (by cases hc), fun hc => (by cases hc)⟩
  split
  · exact ⟨fun hc => (by cases hc), fun hc => (by cases hc)⟩
  split
  · next hnone => exact ⟨fun _ => hnone, fun hc => (by cases hc)⟩
  next entry hentry =>
  split
  · exact ⟨fun hc => (by cases hc), fun hc => (by cases hc)⟩
  split
  · next hspec => exact ⟨fun hc => (by cases hc), fun _ => ⟨entry, hentry, hspec⟩⟩
  split
  · exact ⟨fun hc => (by cases hc), fun hc => (by cases hc)⟩
  split
  · exact ⟨fun hc => (by cases hc), fun hc => (by cases hc)⟩
  split
  · exact ⟨fun hc => (by cases hc), fun hc => (by cases hc)⟩
  · next acc _ =>
    unfold WaylandProxy.marshal
    dsimp only
    split
    · exact ⟨fun hc => (by cases hc), fun hc => (by cases hc)⟩
    · split
      · exact ⟨fun hc => (by cases hc), fun hc => (by cases hc)⟩
      · exact ⟨fun hc => (by cases hc), fun hc => (by cases hc)⟩

/-- The server half knows the object of the first request on the link. -/
theorem Agreed.head_entry (h : Agreed t s) (ht : Traffic t g s) (hl : s.server.linked = true) {r : Request}
    {rs : List Request} (hrequests : s.requests = r :: rs) : ∃ entry, s.server.objects r.object = some entry ∧
      entry.interface = r.interface ∧ t.request entry.interface (opcodeField r.bytes) ≠ none := by
  have hmem : r ∈ s.app.written := by
    rw [ht.written, hrequests]
    exact List.mem_append_left _ (List.mem_append_right _ List.mem_cons_self)
  have horder := h.serverOrder
  rw [hrequests] at horder
  obtain ⟨n, hserved⟩ := ht.served hl
  obtain ⟨hmade, hgone⟩ := horder.1
  obtain ⟨entry, hentry⟩ := Option.ne_none_iff_exists'.1 (hserved.kept _ hmade hgone)
  have hface : entry.interface = r.interface :=
    Option.some.inj ((hserved.entries _ entry hentry).1.symm.trans (ht.means r hmem).object)
  exact ⟨entry, hentry, hface, hface ▸ (h.asks r hmem).1⟩

/-- What a request makes and destroys, once it is carried out. -/
theorem Agreed.standing (h : Agreed t s) (ht : Traffic t g s) {r : Request} {rs : List Request}
    (hrequests : s.requests = r :: rs) (happlied : s'.applied = s.applied ++ [r])
    (htold : s'.passed ++ s'.events = s.passed ++ s.events) {id : UInt32} (hid : keeps (s.Standing t) r id) :
    s'.Standing t id := by
  have hwritten : s.app.written = s.applied ++ (r :: (rs ++ s.unsent)) := by
    rw [ht.written, hrequests, List.append_assoc]
    rfl
  have hmem : r ∈ s.app.written := by
    rw [hwritten]
    exact List.mem_append_right _ List.mem_cons_self
  rcases hid with ⟨⟨hmade, hgone⟩, hkept⟩ | hcreated
  · refine ⟨?_, fun ⟨r', hr', hdestroys, heq⟩ => ?_⟩
    · rcases hmade with hid | ⟨r', hr', hid⟩ | he
      · exact .inl hid
      · exact .inr (.inl ⟨r', by rw [happlied]; exact List.mem_append_left _ hr', hid⟩)
      · exact .inr (.inr (by rw [htold]; exact he))
    · rw [happlied] at hr'
      rcases List.mem_append.1 hr' with hr' | hr'
      · exact hgone ⟨r', hr', hdestroys, heq⟩
      · obtain rfl := List.mem_singleton.1 hr'
        exact hkept ⟨hdestroys, heq⟩
  · have hproxy : ¬ r.OnStub t := fun hstub => by
      rw [(h.asks r hmem).2 hstub] at hcreated
      cases hcreated
    refine ⟨.inr (.inl ⟨r, by rw [happlied]; exact List.mem_append_right _ (List.mem_singleton_self r), hproxy,
      hcreated⟩), fun ⟨r', hr', _, heq⟩ => ?_⟩
    -- no request before it was for an object that it creates
    have hapart := h.apart
    rw [hwritten] at hapart
    rw [happlied] at hr'
    rcases List.mem_append.1 hr' with hr' | hr'
    · exact (List.pairwise_append.1 hapart).2.2 r' hr' r List.mem_cons_self (heq ▸ hcreated)
    · obtain rfl := List.mem_singleton.1 hr'
      exact (ht.means r' hmem).self (heq ▸ hcreated)

theorem agreed_frame (h : Agreed t s) (ht : Traffic t g s) {created : Bool} (hs : s.frameStep t created = some s') :
    Agreed t s' := by
  rcases frameStep_cases ht hs with ⟨server, refused, -, rfl, hrefused⟩ | ⟨-, r, rs, rest, hrequests, -, -, -, rfl⟩
  · refine h.moved rfl rfl rfl rfl (fun _ h => h) (fun _ h => h) h.ended ?_
    rcases hrefused with rfl | ⟨hl, r, rs, rest, hrequests, rfl⟩
    · exact h.refused
    obtain ⟨entry, hentry, -, hspec⟩ := h.head_entry ht hl hrequests
    obtain ⟨hobject, hrequest⟩ :=
      handleRequestFrame_refused t { s.server with rxBuf := rest } r.frame created
    refine ⟨fun hwhy => ?_, fun hwhy => ?_⟩
    · cases (hobject hwhy).symm.trans hentry
    · obtain ⟨entry', hentry', hnone⟩ := hrequest hwhy
      obtain rfl := Option.some.inj (hentry.symm.trans hentry')
      exact hspec hnone
  · have hlists : s.applied ++ [r] ++ rs = s.applied ++ s.requests := by
      rw [hrequests, List.append_assoc, List.singleton_append]
    have hkeeps := h.serverKeeps
    have hresolves := h.serverOrder
    rw [hrequests] at hkeeps hresolves
    have hnext : ∀ id, keeps (s.Standing t) r id → Standing t { s with
        server := (WaylandProxy.handleRequestFrame t { s.server with rxBuf := rest } r.frame created).2
        requests := rs
        applied := s.applied ++ [r] } id := by
      intro id hid
      refine h.standing ht hrequests ?_ ?_ hid
      · rfl
      · rfl
    exact { h with
      forwarded := fun r' hr' => h.forwarded r' (by rw [← hlists]; exact hr')
      serverKeeps := fun id o ho hd => grows_keeps.foldl hnext id (hkeeps id o ho hd)
      serverOrder := hresolves.2.mono grows_keeps hnext }

/-- What an action needs for both halves to know every object: the application asks only for what is in the
tables, and of an object without a proxy not for another one. -/
def Understandable (t : Tables) (s : Relay) : Action → Prop
  | .write bytes => ∀ r, s.app.request t bytes = some r → Asks t r
  | a => Steady t s a

theorem Understandable.steady {a : Action} (h : Understandable t s a) : Steady t s a := by
  cases a with
  | write bytes => trivial
  | _ => exact h

theorem agreed_step (h : Agreed t s) (ht : Traffic t g s) {a : Action} (ha : Understandable t s a)
    (hs : step t s a = some s') : Agreed t s' := by
  unfold step at hs
  have hclient : (if s.ended.isSome then none else s.clientStep t a) = some s' → Agreed t s' := by
    intro hs
    split at hs
    · cases hs
    · exact agreed_clientStep h ht hs
  cases a with
  | write bytes =>
    obtain ⟨r, hr, rfl⟩ := Option.map_eq_some_iff.1 hs
    exact agreed_write h ht hr (ha r hr)
  | dispatch event =>
    change s.dispatchStep t event = some s' at hs
    unfold dispatchStep at hs
    split at hs
    · cases hs
    split at hs
    · cases hs
    split at hs
    · obtain ⟨server, -, rfl⟩ := Option.map_eq_some_iff.1 hs
      refine h.moved rfl rfl rfl rfl (fun e he => ?_) (fun _ h => h) h.ended h.refused
      dsimp only
      split
      · rw [← List.append_assoc]
        exact List.mem_append_left _ he
      · exact he
    · cases hs
  | recv n | send n =>
    obtain ⟨server, -, rfl⟩ := Option.map_eq_some_iff.1 hs
    exact h.moved rfl rfl rfl rfl (fun _ h => h) (fun _ h => h) h.ended h.refused
  | frame created => exact agreed_frame h ht hs
  | _ => exact hclient hs

theorem run_agreed (hT : t.Protocol) {as : List Action} (h : RunWhere (step t) (Understandable t) {} as s) :
    ∃ g, Traffic t g s ∧ Agreed t s := by
  refine h.invariant (I := fun s => ∃ g, Traffic t g s ∧ Agreed t s) ⟨_, traffic_start t, agreed_start t⟩
    fun _ _ _ hinv ha hs => ?_
  obtain ⟨g, htraffic, hagreed⟩ := hinv
  obtain ⟨g', htraffic'⟩ := traffic_step htraffic hT ha.steady hs
  exact ⟨g', htraffic', agreed_step hagreed htraffic ha hs⟩

/-- A request that arrives is for an object both halves know under one interface, an event that arrives for one the
client half knows as the server half did, and neither half has ended over one it does not know. -/
structure Agreement (t : Tables) (s : Relay) : Prop where
  request : s.server.linked = true → ∀ frame rest, takeLinkFrame s.server.rxBuf = .ok frame rest →
    ∃ entry obj, s.server.objects (objectField frame.wireBytes) = some entry ∧
      s.client.objects (objectField frame.wireBytes) = some obj ∧ entry.interface = obj.interface
  event : ∀ frame rest, takeLinkFrame s.client.rxLink = .ok frame rest →
    ∃ e obj, s.events.head? = some e ∧ e.frame = frame ∧
      s.client.objects (objectField frame.wireBytes) = some obj ∧ obj.interface = e.interface
  ended : s.ended ≠ some .unknownObject ∧ s.ended ≠ some .unknownRequest
  refused : s.refused ≠ some .unknownObject ∧ s.refused ≠ some .unknownRequest

/-- In any interleaving. -/
theorem tables_agree (hT : t.Protocol) {as : List Action} (h : RunWhere (step t) (Understandable t) {} as s) :
    Agreement t s := by
  obtain ⟨g, htraffic, hagreed⟩ := run_agreed hT h
  refine ⟨fun hl frame rest htake => ?_, fun frame rest htake => ?_, hagreed.ended, hagreed.refused⟩
  · obtain ⟨r, rs, hrequests, rfl, -⟩ := htraffic.head_request hl htake
    obtain ⟨entry, hentry, hface, -⟩ := hagreed.head_entry htraffic hl hrequests
    have hmem : r ∈ s.applied ++ s.requests := by
      rw [hrequests]
      exact List.mem_append_right _ List.mem_cons_self
    obtain ⟨obj, hobj⟩ := Option.ne_none_iff_exists'.1 (hagreed.forwarded r hmem)
    have hmeans := htraffic.means r (by rw [htraffic.written]; exact List.mem_append_left _ hmem)
    exact ⟨entry, obj, hentry, hobj,
      hface.trans (Option.some.inj (hmeans.object.symm.trans (htraffic.clientNamed _ obj hobj)))⟩
  · obtain ⟨e, es, lost, hevents, rfl, -⟩ := htraffic.head_event htake
    have horder := htraffic.order
    rw [hevents] at horder
    obtain ⟨obj, hobj⟩ := Option.ne_none_iff_exists'.1 horder.1
    have htells := htraffic.tells e (by
      rw [hevents]
      exact List.mem_append_right _ List.mem_cons_self)
    exact ⟨e, obj, by rw [hevents]; rfl, rfl, hobj,
      Option.some.inj ((htraffic.clientNamed _ obj hobj).symm.trans htells.object)⟩

end

instance (t : Tables) (r : Request) : Decidable (Asks t r) := inferInstanceAs (Decidable (_ ∧ _))

instance (t : Tables) (s : Relay) : DecidablePred (Understandable t s)
  | .write bytes => inferInstanceAs (Decidable (∀ r ∈ s.app.request t bytes, Asks t r))
  | .dispatch event => inferInstanceAs (Decidable (Bounded t s event))
  | .recvApp _ | .request | .sendLink _ | .recvLink _ | .event _ | .sendApp _ | .fail | .recv _ | .frame _ | .send _ =>
    isTrue trivial

/-- An application binds a global that is not in the tables, which the server half has a stub for. -/
def stubBound : List Action :=
  [requestBytes 1 1 [newIdArg 2], requestBytes 2 0 (bindArgs 1 3 "zxdg_decoration_manager_v1")].flatMap carried

/-- While nothing is asked of the stub, the halves agree. -/
theorem tables_agree_stub : ∃ s, Run (step excerpt) {} stubBound s ∧
    (s.server.objects 3).map (·.proxy) = some none ∧ Agreement excerpt s := by
  have hrun : (runList (checked (step excerpt) (Understandable excerpt)) {} stubBound).any
      (fun s => (s.server.objects 3).map (·.proxy) = some none) = true := by decide +kernel
  obtain ⟨s, hs, hstub⟩ := (Option.any_eq_true _ _).1 hrun
  have hwhere := runWhere_of_checked hs
  exact ⟨s, hwhere.run, of_decide_eq_true hstub, tables_agree excerpt_protocol hwhere⟩

/-- It asks something of what it has bound. -/
def onStub : List Action :=
  stubBound ++ [.write (requestBytes 3 0 []), .recvApp 8, .request]

/-- The client half has no stubs. -/
theorem request_on_stub : ∃ s, Run (step excerpt) {} onStub s ∧
    (s.server.objects 3).map (·.proxy) = some none ∧ s.ended = some .unknownRequest ∧ ¬ Agreement excerpt s := by
  have hrun : (runList (step excerpt) {} onStub).any (fun s =>
      (s.server.objects 3).map (·.proxy) = some none ∧ s.ended = some .unknownRequest) = true := by decide +kernel
  obtain ⟨s, hs, hstub⟩ := (Option.any_eq_true _ _).1 hrun
  obtain ⟨hproxy, hended⟩ := of_decide_eq_true hstub
  exact ⟨s, run_of_runList hs, hproxy, hended, fun h => h.ended.2 hended⟩

end Relay

end VkRemote.Wayland
