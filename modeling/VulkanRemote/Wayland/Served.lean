import VulkanRemote.Lib.Put
import VulkanRemote.Wayland.Isolation
import VulkanRemote.Wayland.Relay
import VulkanRemote.Wayland.RoundTrip

/-! The server half's table against a naming of all objects: what it holds has the right interface, and what it
was told to make is there until it is destroyed. -/

namespace VkRemote.Wayland

open Lib

/-- What every object is, under the id that the application and both halves know it by. -/
abbrev Naming := UInt32 → Option Name

def Naming.Extends (g g' : Naming) : Prop := ∀ id i, g id = some i → g' id = some i

theorem Naming.Extends.put {g : Naming} {created : List (UInt32 × Name)} (h : ∀ c ∈ created, g c.1 = none) :
    g.Extends (putAll g created) := fun _ _ hid => putAll_of_fresh h hid

/-- `n` server-side ids have been given; `made` are the objects the server half was told to make, and `gone` the
ones it was told to destroy. -/
structure Served (t : Tables) (g : Naming) (n : ℕ) (made gone : UInt32 → Prop) (s : WaylandProxy) : Prop where
  display : ∀ p, s.proxies 0 = some p → p.id = none
  numbered : 0 < s.made ∧ ∀ i p, s.proxies i = some p → i < s.made
  next : s.nextServerSideId = UInt32.ofNat (firstServerSideId.toNat + n)
  bound : n ≤ 2 ^ 24
  below : ∀ id, g id ≠ none → firstServerSideId ≤ id → id.toNat < firstServerSideId.toNat + n
  names : ∀ i p id, s.proxies i = some p → p.id = some id →
    g id = some p.interface ∧ p.interface ≠ displayName ∧ made id
  entries : ∀ id e, s.objects id = some e → g id = some e.interface ∧
    (e.proxy = none ↔ id < firstServerSideId ∧ t.lookupWlInterface e.interface = false)
  live : ∀ id e i, s.objects id = some e → e.proxy = some i →
    ∃ p, s.proxies i = some p ∧ p.interface = e.interface ∧ (p.id = some id ∨ id = 1 ∧ i = 0)
  kept : ∀ id, made id → ¬ gone id → s.objects id ≠ none

section

variable {t : Tables} {g g' : Naming} {n : ℕ} {made made' gone gone' : UInt32 → Prop} {s s' : WaylandProxy}

theorem toNat_firstServerSideId : firstServerSideId.toNat = 0xff000000 := rfl

theorem Served.congr (h : Served t g n made gone s) (hg : g.Extends g')
    (hbelow : ∀ id, g' id ≠ none → g id = none → id < firstServerSideId) (hmade : ∀ x, made x ↔ made' x)
    (hgone : ∀ x, gone x → gone' x) : Served t g' n made' gone' s where
  display := h.display
  numbered := h.numbered
  next := h.next
  bound := h.bound
  below id hid hserver := by
    by_cases hold : g id = none
    · exact absurd (hbelow id hid hold) (UInt32.not_lt.2 hserver)
    · exact h.below id hold hserver
  names i p id hp hid := by
    obtain ⟨hname, hdisplay, hmade'⟩ := h.names i p id hp hid
    exact ⟨hg _ _ hname, hdisplay, (hmade _).1 hmade'⟩
  entries id e he := ⟨hg _ _ (h.entries id e he).1, (h.entries id e he).2⟩
  live := h.live
  kept id hm hn := h.kept id ((hmade _).2 hm) fun hgone' => hn (hgone _ hgone')

theorem Served.register {id : UInt32} {i : Name} (h : Served t g n made gone s) (hg : g id = some i)
    (hi : i ≠ displayName) (hid : firstServerSideId ≤ id ∨ t.lookupWlInterface i = true) (version : UInt32)
    (origin : ℕ) : Served t g n (fun x => made x ∨ x = id) gone (s.register id i version origin i) where
  display p hp := by
    simp only [WaylandProxy.register, Function.update_apply] at hp
    rw [if_neg (Nat.ne_of_lt h.numbered.1)] at hp
    exact h.display p hp
  numbered := by
    refine ⟨Nat.succ_pos _, fun j p hp => ?_⟩
    simp only [WaylandProxy.register, Function.update_apply] at hp ⊢
    split at hp
    · next hj => omega
    · exact Nat.lt_succ_of_lt (h.numbered.2 j p hp)
  next := h.next
  bound := h.bound
  below := h.below
  names j p id' hp hid' := by
    simp only [WaylandProxy.register, Function.update_apply] at hp
    split at hp
    · obtain rfl := Option.some.inj hp
      obtain rfl := Option.some.inj hid'
      exact ⟨hg, hi, .inr rfl⟩
    · obtain ⟨hname, hdisplay, hmade⟩ := h.names j p id' hp hid'
      exact ⟨hname, hdisplay, .inl hmade⟩
  entries id' e he := by
    simp only [WaylandProxy.register, Function.update_apply] at he
    split at he
    · next heq =>
      subst heq
      obtain rfl := Option.some.inj he
      refine ⟨hg, fun hnone => (by cases hnone), fun hstub => ?_⟩
      obtain ⟨hlt, hfalse⟩ := hstub
      rcases hid with hge | hlookup
      · exact absurd hlt (UInt32.not_lt.2 hge)
      · exact absurd (hlookup.symm.trans hfalse) Bool.noConfusion
    · exact h.entries id' e he
  live id' e j he hj := by
    simp only [WaylandProxy.register, Function.update_apply] at he ⊢
    split at he
    · next heq =>
      obtain rfl := Option.some.inj he
      obtain rfl := Option.some.inj hj
      exact ⟨_, if_pos rfl, rfl, .inl (congrArg some heq.symm)⟩
    · obtain ⟨p, hp, hrest⟩ := h.live id' e j he hj
      have hlt := h.numbered.2 j p hp
      exact ⟨p, by rw [if_neg (by omega)]; exact hp, hrest⟩
  kept id' hm hn := by
    simp only [WaylandProxy.register, Function.update_apply]
    split
    · exact Option.some_ne_none _
    · next hne => exact h.kept id' (hm.resolve_right hne) hn

/-- A stub is put into the table. -/
theorem Served.stub {id : UInt32} {e : ObjectEntry} (h : Served t g n made gone s) (hg : g id = some e.interface)
    (hid : id < firstServerSideId) (hproxy : e.proxy = none) (hlookup : t.lookupWlInterface e.interface = false) :
    Served t g n (fun x => made x ∨ x = id) gone
      { s with objects := Function.update s.objects id (some e) } where
  display := h.display
  numbered := h.numbered
  next := h.next
  bound := h.bound
  below := h.below
  names j p id' hp hid' := by
    obtain ⟨hname, hdisplay, hmade⟩ := h.names j p id' hp hid'
    exact ⟨hname, hdisplay, .inl hmade⟩
  entries id' e' he := by
    simp only [Function.update_apply] at he
    split at he
    · next heq =>
      subst heq
      obtain rfl := Option.some.inj he
      exact ⟨hg, fun _ => ⟨hid, hlookup⟩, fun _ => hproxy⟩
    · exact h.entries id' e' he
  live id' e' j he hj := by
    simp only [Function.update_apply] at he
    split at he
    · obtain rfl := Option.some.inj he
      cases hproxy.symm.trans hj
    · exact h.live id' e' j he hj
  kept id' hm hn := by
    simp only [Function.update_apply]
    split
    · exact Option.some_ne_none _
    · next hne => exact h.kept id' (hm.resolve_right hne) hn

theorem Served.erase (h : Served t g n made gone s) (id : UInt32) :
    Served t g n made (fun x => gone x ∨ x = id) (s.erase id) where
  display := h.display
  numbered := h.numbered
  next := h.next
  bound := h.bound
  below := h.below
  names := h.names
  entries id' e he := by
    simp only [WaylandProxy.erase, Function.update_apply] at he
    split at he
    · cases he
    · exact h.entries id' e he
  live id' e j he hj := by
    simp only [WaylandProxy.erase, Function.update_apply] at he
    split at he
    · cases he
    · exact h.live id' e j he hj
  kept id' hm hn := by
    simp only [WaylandProxy.erase, Function.update_apply]
    rw [if_neg fun heq => hn (.inr heq)]
    exact h.kept id' hm fun hg => hn (.inl hg)

theorem Served.called (h : Served t g n made gone s) {call : MarshalCall} (hd : call.destroy = false) :
    Served t g n made gone (s.called call) := by
  have hp : (s.called call).proxies = s.proxies := by
    simp [WaylandProxy.called, hd]
  exact ⟨hp ▸ h.display, ⟨h.numbered.1, hp ▸ h.numbered.2⟩, h.next, h.bound, h.below, hp ▸ h.names, h.entries,
    hp ▸ h.live, h.kept⟩

/-- A proxy is destroyed together with the one entry that leads to it. -/
theorem Served.destroyed (h : Served t g n made gone s) {call : MarshalCall} {id : UInt32} {e : ObjectEntry}
    (he : s.objects id = some e) (hproxy : e.proxy = some call.proxy) :
    Served t g n made (fun x => gone x ∨ x = id) ((s.called call).erase id) where
  display p hp := h.display p (WaylandProxy.called_proxies hp)
  numbered := ⟨h.numbered.1, fun j p hp => h.numbered.2 j p (WaylandProxy.called_proxies hp)⟩
  next := h.next
  bound := h.bound
  below := h.below
  names j p id' hp := h.names j p id' (WaylandProxy.called_proxies hp)
  entries := (h.erase id).entries
  live id' e' j he' hj := by
    have hne : id' ≠ id := by
      rintro rfl
      simp [WaylandProxy.erase] at he'
    have hkept : s.objects id' = some e' := by
      simpa [WaylandProxy.erase, WaylandProxy.called, hne] using he'
    obtain ⟨p, hp, hface, hid⟩ := h.live id' e' j hkept hj
    obtain ⟨q, hq, -, hid'⟩ := h.live id e call.proxy he hproxy
    refine ⟨p, ?_, hface, hid⟩
    have hother : j ≠ call.proxy := by
      rintro rfl
      obtain rfl := Option.some.inj (hp.symm.trans hq)
      rcases hid with hid | ⟨rfl, h0⟩ <;> rcases hid' with hid' | ⟨rfl, h0'⟩
      · exact hne (Option.some.inj (hid.symm.trans hid'))
      · cases hid.symm.trans (h.display p (h0' ▸ hp))
      · cases hid'.symm.trans (h.display p (h0 ▸ hp))
      · exact hne rfl
    simp only [WaylandProxy.erase, WaylandProxy.called]
    split
    · rw [Function.update_of_ne hother]
      exact hp
    · exact hp
  kept := (h.erase id).kept

theorem Served.queue (h : Served t g n made gone s) (buffer : List TxByte) :
    Served t g n made gone { s with txBuf := buffer } :=
  ⟨h.display, h.numbered, h.next, h.bound, h.below, h.names, h.entries, h.live, h.kept⟩

theorem Served.received (h : Served t g n made gone s) (buffer : List UInt8) :
    Served t g n made gone { s with rxBuf := buffer } :=
  ⟨h.display, h.numbered, h.next, h.bound, h.below, h.names, h.entries, h.live, h.kept⟩

/-- How many objects a message of this signature creates. -/
def newIdCount (specs : List ArgSpec) : ℕ := (specs.filter (·.type = .newId)).length

theorem Served.next_toNat (h : Served t g n made gone s) (hn : n < 2 ^ 24) :
    s.nextServerSideId.toNat = firstServerSideId.toNat + n := by
  rw [h.next, toNat_firstServerSideId]
  exact UInt32.toNat_ofNat_of_lt' (by show _ < 2 ^ 32; omega)

/-- The next server-side id is new to everyone. -/
theorem Served.next_fresh (h : Served t g n made gone s) (hn : n < 2 ^ 24) :
    firstServerSideId ≤ s.nextServerSideId ∧ g s.nextServerSideId = none := by
  have hnat := h.next_toNat hn
  have hle : firstServerSideId ≤ s.nextServerSideId := by
    rw [UInt32.le_iff_toNat_le, hnat]
    omega
  refine ⟨hle, ?_⟩
  rcases hg : g s.nextServerSideId with _ | i
  · rfl
  · have hbelow := h.below _ (by rw [hg]; exact Option.some_ne_none i) hle
    omega

theorem creations_cons_of_ne {arg : DecodedArg} {args : List DecodedArg} (h : arg.type ≠ .newId) :
    creations (arg :: args) = creations args := by
  simp [creations, h]

theorem creations_cons_newId {arg : DecodedArg} {args : List DecodedArg} (h : arg.type = .newId) :
    creations (arg :: args) = (arg.u32, arg.str) :: creations args := by
  simp [creations, h]

/-- A new object in an event gets the next id, its declared interface and an entry. -/
theorem Served.newId {i : Name} (h : Served t g n made gone s) (hn : n < 2 ^ 24) (hi : i ≠ displayName)
    (version : UInt32) (origin : ℕ) :
    Served t (Function.update g s.nextServerSideId (some i)) (n + 1) (fun x => made x ∨ x = s.nextServerSideId) gone
      ({ s with nextServerSideId := s.nextServerSideId + 1 }.register s.nextServerSideId i version origin i) := by
  obtain ⟨hserver, hfresh⟩ := h.next_fresh hn
  have hnat := h.next_toNat hn
  have hext : g.Extends (Function.update g s.nextServerSideId (some i)) := fun id j hid => by
    rw [Function.update_apply]
    split
    · next heq =>
      subst heq
      cases hfresh.symm.trans hid
    · exact hid
  have hbumped : Served t (Function.update g s.nextServerSideId (some i)) (n + 1) made gone
      { s with nextServerSideId := s.nextServerSideId + 1 } := by
    refine ⟨h.display, h.numbered, ?_, hn, fun id hid hge => ?_, fun j p id hp hid => ?_,
      fun id e he => ⟨hext _ _ (h.entries id e he).1, (h.entries id e he).2⟩, h.live, h.kept⟩
    · show s.nextServerSideId + 1 = _
      rw [h.next, ← Nat.add_assoc, UInt32.ofNat_add (_ + n) 1]
      rfl
    · by_cases heq : id = s.nextServerSideId
      · subst heq
        omega
      · rw [Function.update_of_ne heq] at hid
        have := h.below id hid hge
        omega
    · obtain ⟨hname, hdisplay, hmade⟩ := h.names j p id hp hid
      exact ⟨hext _ _ hname, hdisplay, hmade⟩
  exact hbumped.register (Function.update_self ..) hi (.inl hserver) version origin

theorem eventArg_of_ne {spec : ArgSpec} (h : spec.type ≠ .newId) (arg : WlArgument) (origin : ℕ) (s : WaylandProxy) :
    (WaylandProxy.eventArg spec arg origin s).2.2 = s ∧ (WaylandProxy.eventArg spec arg origin s).1.type ≠ .newId := by
  obtain ⟨type, interface⟩ := spec
  cases type with
  | newId => exact absurd rfl h
  | _ => exact ⟨rfl, ArgType.noConfusion⟩

/-- What packing an event leaves of the table, and the ids it gives to new objects. -/
theorem Served.eventArgs {specs : List ArgSpec} {args : List WlArgument} (h : Served t g n made gone s)
    (htyped : Typed specs args = true)
    (hdeclared : ∀ a ∈ specs, a.type = .newId → a.interface ≠ none ∧ a.interface ≠ some displayName)
    (hn : n + newIdCount specs ≤ 2 ^ 24) (origin : ℕ) :
    Served t (putAll g (creations (WaylandProxy.eventArgs specs args origin s).1)) (n + newIdCount specs)
        (fun x => made x ∨ x ∈ (creations (WaylandProxy.eventArgs specs args origin s).1).map Prod.fst) gone
        (WaylandProxy.eventArgs specs args origin s).2.2 ∧
      (∀ c ∈ creations (WaylandProxy.eventArgs specs args origin s).1, firstServerSideId ≤ c.1 ∧ g c.1 = none) ∧
      ((creations (WaylandProxy.eventArgs specs args origin s).1).map Prod.fst).Nodup := by
  induction specs generalizing args g n made s with
  | nil =>
    refine ⟨h.congr (fun _ _ h => h) (fun _ h h' => absurd h' h) (fun x => ?_) (fun _ h => h), ?_, List.nodup_nil⟩
    · simp [WaylandProxy.eventArgs, creations]
    · simp [WaylandProxy.eventArgs, creations]
  | cons spec specs ih =>
    have htyped' := Bool.and_eq_true_iff.1 htyped
    have hrest := fun a ha => hdeclared a (List.mem_cons_of_mem _ ha)
    unfold WaylandProxy.eventArgs
    dsimp only
    by_cases hnew : spec.type = .newId
    · obtain ⟨type, interface⟩ := spec
      obtain rfl : type = .newId := hnew
      obtain ⟨hnone, hdisplay⟩ := hdeclared _ List.mem_cons_self rfl
      obtain ⟨i, rfl⟩ := Option.ne_none_iff_exists'.1 hnone
      have hclass : (args.headD {}).n.1 = i := by simpa using htyped'.1
      have hcount : newIdCount (⟨.newId, some i⟩ :: specs) = newIdCount specs + 1 := by simp [newIdCount]
      have hnew' := h.newId (by omega) (fun hi => hdisplay (congrArg some hi)) (args.headD {}).n.2 origin
      obtain ⟨hserver, hfresh⟩ := h.next_fresh (by omega)
      obtain ⟨hserved, hfresh', hnodup⟩ := ih hnew' htyped'.2 hrest (by omega)
      have harg : WaylandProxy.eventArg ⟨.newId, some i⟩ (args.headD {}) origin s =
          ({ type := .newId, str := i, u32 := s.nextServerSideId }, [],
            { s with nextServerSideId := s.nextServerSideId + 1 }.register s.nextServerSideId i
              (args.headD {}).n.2 origin i) := by
        unfold WaylandProxy.eventArg
        dsimp only
        rw [hclass]
        rfl
      rw [harg, creations_cons_newId rfl, hcount]
      dsimp only
      have hothers : ∀ c ∈ creations (WaylandProxy.eventArgs specs args.tail origin
          ({ s with nextServerSideId := s.nextServerSideId + 1 }.register s.nextServerSideId i
            (args.headD {}).n.2 origin i)).1, c.1 ≠ s.nextServerSideId ∧ g c.1 = none := by
        intro c hc
        have hnone := (hfresh' c hc).2
        rw [Function.update_apply] at hnone
        split at hnone
        · cases hnone
        · next hne => exact ⟨hne, hnone⟩
      refine ⟨?_, ?_, ?_⟩
      · rw [putAll_cons, Nat.add_comm (newIdCount specs) 1, ← Nat.add_assoc]
        refine hserved.congr (fun _ _ h => h) (fun _ h h' => absurd h' h) (fun x => ?_) fun _ h => h
        simp [or_assoc]
      · intro c hc
        rcases List.mem_cons.1 hc with rfl | hc
        · exact ⟨hserver, hfresh⟩
        · exact ⟨(hfresh' c hc).1, (hothers c hc).2⟩
      · rw [List.map_cons, List.nodup_cons]
        refine ⟨fun hmem => ?_, hnodup⟩
        obtain ⟨c, hc, heq⟩ := List.mem_map.1 hmem
        exact (hothers c hc).1 heq
    · obtain ⟨hstate, htype⟩ := eventArg_of_ne hnew (args.headD {}) origin s
      have hcount : newIdCount (spec :: specs) = newIdCount specs := by simp [newIdCount, hnew]
      rw [creations_cons_of_ne htype, hstate, hcount]
      exact ih h htyped'.2 hrest (hcount ▸ hn)

/-- What the client half will make of an event is what the server half meant by it. -/
structure Told.Tells (t : Tables) (g : Naming) (e : Told) : Prop where
  sized : e.frame.Sized
  object : g e.object = some e.interface
  notDisplay : e.interface ≠ displayName
  long : 8 ≤ e.frame.wireBytes.length
  known : ∃ spec args, t.event e.interface (opcodeField e.frame.wireBytes) = some spec ∧
    decodeMessage spec.args (e.frame.wireBytes.drop 8) = some args ∧ e.creates = creations args
  creates : ∀ c ∈ e.creates, g c.1 = some c.2 ∧ firstServerSideId ≤ c.1

theorem Told.Tells.mono {e : Told} (h : e.Tells t g) (hg : g.Extends g') : e.Tells t g' :=
  ⟨h.sized, hg _ _ h.object, h.notDisplay, h.long, h.known, fun c hc => ⟨hg _ _ (h.creates c hc).1, (h.creates c hc).2⟩⟩

theorem eventArg_matches {spec : ArgSpec} (h : spec.type = .newId → spec.interface ≠ none) (arg : WlArgument)
    (origin : ℕ) (s : WaylandProxy) : spec.Matches (WaylandProxy.eventArg spec arg origin s).1 ∧
      spec.Inline (WaylandProxy.eventArg spec arg origin s).1 := by
  obtain ⟨type, interface⟩ := spec
  cases type with
  | newId =>
    obtain ⟨i, rfl⟩ := Option.ne_none_iff_exists'.1 (h rfl)
    exact ⟨rfl, fun _ hnone => by cases hnone⟩
  | _ => exact ⟨rfl, fun hnew => by cases hnew⟩

theorem eventArgs_matches {specs : List ArgSpec} (h : ∀ a ∈ specs, a.type = .newId → a.interface ≠ none)
    (args : List WlArgument) (origin : ℕ) (s : WaylandProxy) :
    Matches specs (WaylandProxy.eventArgs specs args origin s).1 ∧
      Inline specs (WaylandProxy.eventArgs specs args origin s).1 := by
  induction specs generalizing args s with
  | nil => exact ⟨.nil, .nil⟩
  | cons spec specs ih =>
    obtain ⟨hm, hi⟩ := eventArg_matches (h spec List.mem_cons_self) (args.headD {}) origin s
    obtain ⟨hms, his⟩ := ih (fun a ha => h a (List.mem_cons_of_mem _ ha)) args.tail
      (WaylandProxy.eventArg spec (args.headD {}) origin s).2.2
    exact ⟨.cons hm hms, .cons hi his⟩

theorem creations_inBand (args : List DecodedArg) : creations (args.map DecodedArg.inBand) = creations args := by
  induction args with
  | nil => rfl
  | cons arg args ih =>
    rw [List.map_cons]
    by_cases hnew : arg.type = .newId
    · rw [creations_cons_newId hnew, creations_cons_newId (by exact hnew), ih]
      rfl
    · rw [creations_cons_of_ne hnew, creations_cons_of_ne (by exact hnew), ih]

/-- The contents of descriptors are those the event brought. -/
theorem eventArgs_blobs (specs : List ArgSpec) (args : List WlArgument) (origin : ℕ) (s : WaylandProxy) :
    (WaylandProxy.eventArgs specs args origin s).2.1.length ≤ specs.length ∧
      ∀ b ∈ (WaylandProxy.eventArgs specs args origin s).2.1, b = [] ∨ ∃ a ∈ args, b = a.h := by
  induction specs generalizing args s with
  | nil => exact ⟨Nat.le_refl 0, fun b hb => by cases hb⟩
  | cons spec specs ih =>
    obtain ⟨hlen, hmem⟩ := ih args.tail (WaylandProxy.eventArg spec (args.headD {}) origin s).2.2
    have hfirst : (WaylandProxy.eventArg spec (args.headD {}) origin s).2.1.length ≤ 1 ∧
        ∀ b ∈ (WaylandProxy.eventArg spec (args.headD {}) origin s).2.1, b = (args.headD {}).h := by
      obtain ⟨type, interface⟩ := spec
      cases type with
      | fd => exact ⟨Nat.le_refl 1, fun b hb => List.mem_singleton.1 hb⟩
      | _ => exact ⟨Nat.zero_le 1, fun b hb => by cases hb⟩
    unfold WaylandProxy.eventArgs
    dsimp only
    refine ⟨by rw [List.length_append, List.length_cons]; omega, fun b hb => ?_⟩
    rcases List.mem_append.1 hb with hb | hb
    · obtain rfl := hfirst.2 b hb
      cases args with
      | nil => exact .inl rfl
      | cons a args => exact .inr ⟨a, List.mem_cons_self, rfl⟩
    · exact (hmem b hb).imp_right fun ⟨a, ha, heq⟩ => ⟨a, List.mem_of_mem_tail ha, heq⟩

/-- The dispatcher either drops the link or puts what it tells into the buffer. -/
theorem genericDispatcher_told {p : Proxy} (hp : p.interface ≠ displayName) (id : UInt32) (event : Event) :
    match s.told t p id event with
    | none => ∃ s₁ : WaylandProxy, s.genericDispatcher t p id event = s₁.dropLink
    | some e => ∃ spec, t.event p.interface event.opcode = some spec ∧
        encodeMessage id event.opcode (WaylandProxy.eventArgs spec.args event.args p.origin s).1 =
          some e.frame.wireBytes ∧
        e.frame.fdBlobs = (WaylandProxy.eventArgs spec.args event.args p.origin s).2.1 ∧
        e.interface = p.interface ∧
        e.creates = creations (WaylandProxy.eventArgs spec.args event.args p.origin s).1 ∧
        s.genericDispatcher t p id event = { (WaylandProxy.eventArgs spec.args event.args p.origin s).2.2 with
          txBuf := (WaylandProxy.eventArgs spec.args event.args p.origin s).2.2.txBuf ++
            (writeLinkFrame e.frame).map (⟨·, p.origin⟩) } := by
  unfold WaylandProxy.told WaylandProxy.genericDispatcher
  rcases hspec : t.event p.interface event.opcode with _ | spec
  · exact ⟨s, rfl⟩
  · rw [Option.bind_some]
    dsimp only
    rcases henc : encodeMessage id event.opcode (WaylandProxy.eventArgs spec.args event.args p.origin s).1
      with _ | wireBytes
    · exact ⟨_, rfl⟩
    · have hdelete : WaylandProxy.isDeleteId p.interface spec = false := by
        unfold WaylandProxy.isDeleteId
        rw [decide_eq_false hp, Bool.false_and]
      rw [hdelete]
      exact ⟨spec, rfl, henc, rfl, rfl, rfl, rfl⟩

/-- The server-side ids have not run out: `next_server_side_id_` does not pass its end. -/
def IdsLeft (s : WaylandProxy) (k : ℕ) : Prop :=
  k = 0 ∨ firstServerSideId ≤ s.nextServerSideId ∧ s.nextServerSideId.toNat + k ≤ 2 ^ 32

theorem Served.idsLeft (h : Served t g n made gone s) {k : ℕ} (hk : IdsLeft s k) : n + k ≤ 2 ^ 24 := by
  have hbound := h.bound
  rcases hk with rfl | ⟨hserver, hleft⟩
  · exact hbound
  · rcases Nat.lt_or_ge n (2 ^ 24) with hn | hn
    · rw [h.next_toNat hn, toNat_firstServerSideId] at hleft
      omega
    · obtain rfl : n = 2 ^ 24 := le_antisymm hbound hn
      rw [h.next] at hserver
      exact absurd hserver (by decide)

theorem rxBuf_eventArgs (specs : List ArgSpec) (args : List WlArgument) (origin : ℕ) (s : WaylandProxy) :
    (WaylandProxy.eventArgs specs args origin s).2.2.rxBuf = s.rxBuf := by
  induction specs generalizing args s with
  | nil => rfl
  | cons spec specs ih =>
    refine (ih _ _).trans ?_
    obtain ⟨type, interface⟩ := spec
    cases type <;> rfl

theorem event_protocol (hT : t.Protocol) {interface : Name} {opcode : UInt16} {spec : MessageSpec}
    (h : t.event interface opcode = some spec) : spec.args.length < 2 ^ 16 ∧
      ∀ a ∈ spec.args, a.type = .newId → a.interface ≠ none ∧ a.interface ≠ some displayName := by
  obtain ⟨i, hi, hspec⟩ := findMessage_mem h
  exact hT.events i hi spec (by simpa using hspec)

/-- An event that is sent is one the client half can make sense of, and what it creates is in the table. -/
theorem Served.sent {i : ℕ} {p : Proxy} {id : UInt32} {event : Event} {e : Told} (h : Served t g n made gone s)
    (hp : s.proxies i = some p) (hid : p.id = some id) (hT : t.Protocol)
    (htyped : (t.event p.interface event.opcode).all fun spec => Typed spec.args event.args)
    (hleft : ∀ spec, t.event p.interface event.opcode = some spec → IdsLeft s (newIdCount spec.args))
    (hblobs : ∀ a ∈ event.args, a.h.length < 2 ^ 32) (he : s.told t p id event = some e) :
    ∃ n', Served t (putAll g e.creates) n' (fun x => made x ∨ x ∈ e.creates.map Prod.fst) gone
        (s.genericDispatcher t p id event) ∧
      e.Tells t (putAll g e.creates) ∧ e.object = id ∧ (∀ c ∈ e.creates, g c.1 = none) ∧
      (s.genericDispatcher t p id event).rxBuf = s.rxBuf ∧
      (s.genericDispatcher t p id event).linked = s.linked ∧
      (s.genericDispatcher t p id event).txBuf.map (·.byte) = s.txBuf.map (·.byte) ++ writeLinkFrame e.frame := by
  obtain ⟨hname, hdisplay, -⟩ := h.names i p id hp hid
  have htold := genericDispatcher_told (t := t) (s := s) hdisplay id event
  rw [he] at htold
  obtain ⟨spec, hspec, henc, hfds, hface, hcreates, hstate⟩ := htold
  obtain ⟨hshort, hdeclared⟩ := event_protocol hT hspec
  rw [hspec, Option.all_some] at htyped
  obtain ⟨hserved, hfresh, hnodup⟩ := h.eventArgs htyped hdeclared (h.idsLeft (hleft spec hspec)) p.origin
  have hwithin := WaylandProxy.within_eventArgs spec.args event.args p.origin s
  obtain ⟨hm, hi⟩ := eventArgs_matches (fun a ha hnew => (hdeclared a ha hnew).1) event.args p.origin s
  obtain ⟨hcount, hsizes⟩ := eventArgs_blobs spec.args event.args p.origin s
  obtain ⟨hbody, -⟩ := encodeMessage_eq_some_iff.1 henc
  have hobject : e.object = id := objectField_encodeMessage henc
  rw [← hcreates] at hserved hfresh hnodup
  have hframe : e.frame.Sized := by
    refine ⟨?_, ?_, fun b hb => ?_⟩
    · rw [length_encodeMessage henc]
      omega
    · rw [hfds]
      omega
    · rw [hfds] at hb
      rcases hsizes b hb with rfl | ⟨a, ha, rfl⟩
      · exact Nat.two_pow_pos 32
      · exact hblobs a ha
  have hknown : t.event e.interface (opcodeField e.frame.wireBytes) = some spec := by
    rw [hface, opcodeField_encodeMessage henc, hspec]
  have hdecoded : decodeMessage spec.args (e.frame.wireBytes.drop 8) =
      some ((WaylandProxy.eventArgs spec.args event.args p.origin s).1.map DecodedArg.inBand) := by
    rw [body_encodeMessage henc]
    exact (decodeMessage_encodeBody_iff hm (by omega)).2 hi
  have hext := Naming.Extends.put fun c hc => (hfresh c hc).2
  rw [hstate]
  refine ⟨_, hserved.queue _, ⟨hframe, ?_, hface ▸ hdisplay, ?_, ?_, ?_⟩, hobject, fun c hc => (hfresh c hc).2,
    rxBuf_eventArgs .., hwithin.linked, ?_⟩
  · rw [hobject, hface]
    exact hext _ _ hname
  · rw [length_encodeMessage henc]
    omega
  · exact ⟨spec, _, hknown, hdecoded, by rw [hcreates, creations_inBand]⟩
  · exact fun c hc => ⟨putAll_of_nodup hnodup hc, (hfresh c hc).1⟩
  · rw [List.map_append, hwithin.toSend, List.map_map]
    exact congrArg _ (List.map_id' _)

/-- What the application means by a request is what both halves make of its bytes. -/
structure Request.Means (t : Tables) (g : Naming) (r : Request) : Prop where
  whole : WholeMessage r.bytes
  object : g r.object = some r.interface
  known : ∀ spec, t.request r.interface (opcodeField r.bytes) = some spec → ∃ args,
    decodeMessage spec.args (r.bytes.drop 8) = some args ∧ r.creates = creations args ∧
      r.destroys = spec.isDestructor ∧ countFdArgs spec = 0
  unknown : t.request r.interface (opcodeField r.bytes) = none → r.creates = [] ∧ r.destroys = false
  creates : ∀ c ∈ r.creates, g c.1 = some c.2 ∧ c.1 < firstServerSideId ∧ c.2 ≠ displayName
  self : r.object ∉ r.creates.map Prod.fst

/-- The server half has no proxy for the object of the request. -/
def Request.OnStub (t : Tables) (r : Request) : Prop :=
  r.object < firstServerSideId ∧ t.lookupWlInterface r.interface = false

theorem Request.Means.mono {r : Request} (h : r.Means t g) (hg : g.Extends g') : r.Means t g' :=
  ⟨h.whole, hg _ _ h.object, h.known, h.unknown, fun c hc => ⟨hg _ _ (h.creates c hc).1, (h.creates c hc).2⟩, h.self⟩

theorem decodeArg_type {spec : ArgSpec} {data rest : List UInt8} {arg : DecodedArg}
    (h : decodeArg spec data = some (arg, rest)) : arg.type = spec.type := by
  obtain ⟨type, interface⟩ := spec
  cases type with
  | newId =>
    cases interface with
    | none =>
      simp only [decodeArg, Option.bind_eq_some_iff, Option.map_eq_some_iff, Prod.exists, Prod.mk.injEq] at h
      obtain ⟨_, _, _, _, _, _, _, _, _, rfl, _⟩ := h
      rfl
    | some i =>
      simp only [decodeArg, Option.map_eq_some_iff, Prod.exists, Prod.mk.injEq] at h
      obtain ⟨_, _, _, rfl, _⟩ := h
      rfl
  | fd =>
    simp only [decodeArg, Option.some.injEq, Prod.mk.injEq] at h
    obtain ⟨rfl, _⟩ := h
    rfl
  | _ =>
    simp only [decodeArg, Option.map_eq_some_iff, Prod.exists, Prod.mk.injEq] at h
    obtain ⟨_, _, _, rfl, _⟩ := h
    rfl

theorem length_creations_decodeArgs {specs : List ArgSpec} {data rest : List UInt8} {args : List DecodedArg}
    (h : decodeArgs specs data = some (args, rest)) : (creations args).length = newIdCount specs := by
  induction specs generalizing data args with
  | nil =>
    simp only [decodeArgs, Option.some.injEq, Prod.mk.injEq] at h
    obtain ⟨rfl, _⟩ := h
    rfl
  | cons spec specs ih =>
    simp only [decodeArgs, Option.bind_eq_some_iff, Option.map_eq_some_iff, Prod.exists, Prod.mk.injEq] at h
    obtain ⟨a, rest', ha, as, rest'', has, rfl, rfl⟩ := h
    have htype := decodeArg_type ha
    have hrest := ih has
    by_cases hnew : spec.type = .newId
    · rw [creations_cons_newId (htype.trans hnew), List.length_cons, hrest]
      simp [newIdCount, hnew]
    · rw [creations_cons_of_ne (fun hc => hnew (htype.symm.trans hc)), hrest]
      simp [newIdCount, hnew]

theorem length_creations {specs : List ArgSpec} {payload : List UInt8} {args : List DecodedArg}
    (h : decodeMessage specs payload = some args) : (creations args).length = newIdCount specs := by
  unfold decodeMessage at h
  obtain ⟨⟨args', rest⟩, hd, h⟩ := Option.bind_eq_some_iff.1 h
  split at h
  · obtain rfl := Option.some.inj h
    exact length_creations_decodeArgs hd
  · cases h

theorem newIdCount_request (hT : t.Protocol) {interface : Name} {opcode : UInt16} {spec : MessageSpec}
    (h : t.request interface opcode = some spec) : newIdCount spec.args ≤ 1 := by
  obtain ⟨i, hi, hspec⟩ := findMessage_mem h
  exact hT.requests i hi spec (by simpa using hspec)

theorem gatherArg_of_ne {arg : DecodedArg} (h : arg.type ≠ .newId) (version : UInt32)
    (acc : WaylandProxy.Gathered) : ∃ acc', WaylandProxy.gatherArg t s version acc arg = .ok acc' ∧
      acc'.interface = acc.interface ∧ acc'.newId = acc.newId := by
  unfold WaylandProxy.gatherArg
  cases htype : arg.type with
  | newId => exact absurd htype h
  | _ => exact ⟨_, rfl, rfl, rfl⟩

theorem gatherArg_newId {arg : DecodedArg} (h : arg.type = .newId) (version : UInt32)
    (acc : WaylandProxy.Gathered) :
    if t.lookupWlInterface arg.str then ∃ acc', WaylandProxy.gatherArg t s version acc arg = .ok acc' ∧
      acc'.interface = some arg.str ∧ acc'.newId = arg.u32
    else ∃ v, WaylandProxy.gatherArg t s version acc arg = .error (arg.u32, ⟨arg.str, v, none⟩) := by
  unfold WaylandProxy.gatherArg
  rw [h]
  dsimp only
  split
  · exact ⟨_, rfl, rfl, rfl⟩
  · exact ⟨_, rfl⟩

/-- Of a request that creates one object at most, the loop over the arguments finds that object, or makes a stub
of it. -/
theorem gather_spec (version : UInt32) (acc : WaylandProxy.Gathered) {args : List DecodedArg}
    (hone : (creations args).length ≤ 1) :
    match args.foldlM (WaylandProxy.gatherArg t s version) acc with
    | .error stub => creations args = [(stub.1, stub.2.interface)] ∧ stub.2.proxy = none ∧
        t.lookupWlInterface stub.2.interface = false
    | .ok out => (creations args = [] ∧ out.interface = acc.interface ∧ out.newId = acc.newId) ∨
        ∃ i, creations args = [(out.newId, i)] ∧ out.interface = some i ∧ t.lookupWlInterface i = true := by
  induction args generalizing acc with
  | nil => exact .inl ⟨rfl, rfl, rfl⟩
  | cons arg args ih =>
    rw [List.foldlM_cons]
    by_cases hnew : arg.type = .newId
    · rw [creations_cons_newId hnew] at hone ⊢
      have hnil : creations args = [] := List.length_eq_zero_iff.1 (by rw [List.length_cons] at hone; omega)
      have harg := gatherArg_newId (t := t) (s := s) hnew version acc
      split at harg
      · next hlookup =>
        obtain ⟨acc', hacc, hface, hid⟩ := harg
        have hrest := ih acc' (by rw [hnil]; exact Nat.zero_le _)
        rw [hacc]
        change match args.foldlM (WaylandProxy.gatherArg t s version) acc' with
          | .error _ => _
          | .ok _ => _
        rw [hnil] at hrest ⊢
        split at hrest
        · cases hrest.1
        · next out _ =>
          obtain ⟨-, hout, hout'⟩ := hrest.resolve_right fun ⟨_, hcons, _⟩ => by cases hcons
          exact .inr ⟨arg.str, by rw [hout', hid], hout.trans hface, hlookup⟩
      · next hlookup =>
        obtain ⟨v, hacc⟩ := harg
        rw [hacc, hnil]
        exact ⟨rfl, rfl, Bool.eq_false_iff.2 hlookup⟩
    · rw [creations_cons_of_ne hnew] at hone ⊢
      obtain ⟨acc', hacc, hface, hid⟩ := gatherArg_of_ne (t := t) (s := s) hnew version acc
      have hrest := ih acc' hone
      rw [hacc, ← hface, ← hid]
      exact hrest

theorem register_erase_comm {id o : UInt32} (hne : id ≠ o) (interface : Name) (version : UInt32) (origin : ℕ)
    (registered : Name) : (s.register id interface version origin registered).erase o =
      (s.erase o).register id interface version origin registered := by
  simp only [WaylandProxy.register, WaylandProxy.erase]
  rw [Function.update_comm hne]

/-- The call into libwayland for a request that creates `created`. -/
theorem Served.marshal {objectId : UInt32} {entry : ObjectEntry} {proxy : ℕ} {opcode : UInt16}
    {isDestructor created : Bool} {acc : WaylandProxy.Gathered} (h : Served t g n made gone s)
    (hentry : s.objects objectId = some entry) (hproxy : entry.proxy = some proxy)
    (hnew : ∀ i, acc.interface = some i → g acc.newId = some i ∧ i ≠ displayName ∧
      t.lookupWlInterface i = true ∧ acc.newId ≠ objectId)
    (hok : (s.marshal objectId proxy opcode isDestructor acc created).1 = none) :
    Served t g n (fun x => made x ∨ acc.interface.isSome ∧ x = acc.newId)
      (fun x => gone x ∨ isDestructor = true ∧ x = objectId)
      (s.marshal objectId proxy opcode isDestructor acc created).2 := by
  have hsame : g.Extends g := fun _ _ h => h
  have hbelow : ∀ id, g id ≠ none → g id = none → id < firstServerSideId := fun _ h h' => absurd h' h
  unfold WaylandProxy.marshal at hok ⊢
  dsimp only at hok ⊢
  rcases hface : acc.interface with _ | i
  · dsimp only
    cases isDestructor with
    | false =>
      exact (h.called rfl).congr hsame hbelow (fun x => by simp) fun x hx => .inl hx
    | true =>
      exact (h.destroyed hentry hproxy).congr hsame hbelow (fun x => by simp) fun x hx => hx.imp_right fun hx => ⟨rfl, hx⟩
  · rw [hface] at hok
    dsimp only at hok ⊢
    obtain ⟨hname, hdisplay, hlookup, hne⟩ := hnew i hface
    cases created with
    | false => cases hok
    | true =>
      rw [if_pos rfl]
      cases isDestructor with
      | false =>
        exact ((h.called rfl).register hname hdisplay (.inr hlookup) _ _).congr hsame hbelow (fun x => by simp)
          fun x hx => .inl hx
      | true =>
        rw [if_pos rfl, register_erase_comm hne]
        exact ((h.destroyed hentry hproxy).register hname hdisplay (.inr hlookup) _ _).congr hsame hbelow
          (fun x => by simp) fun x hx => hx.imp_right fun hx => ⟨rfl, hx⟩

theorem rxBuf_erase_if (s : WaylandProxy) (c : Prop) [Decidable c] (id : UInt32) :
    (if c then s.erase id else s).rxBuf = s.rxBuf := by
  split
  · rfl
  · rfl

theorem rxBuf_handleRequestFrame (t : Tables) (s : WaylandProxy) (frame : LinkFrame) (created : Bool) :
    (WaylandProxy.handleRequestFrame t s frame created).2.rxBuf = s.rxBuf := by
  have hh := WaylandProxy.handles t s frame created
  generalize WaylandProxy.handleRequestFrame t s frame created = out at hh ⊢
  obtain ⟨r, s'⟩ := out
  cases hh with
  | refused => rfl
  | onStub => exact rxBuf_erase_if ..
  | makesStub => rfl
  | @marshals e proxy spec args acc =>
    unfold WaylandProxy.marshal
    dsimp only
    rcases acc.interface with _ | i
    · cases spec.isDestructor <;> rfl
    · cases created <;> cases spec.isDestructor <;> rfl

/-- A request that is carried out makes what it creates, unless it is for a stub, and destroys what it
destroys. -/
theorem Served.applied {r : Request} {created : Bool} (h : Served t g n made gone s) (hr : r.Means t g)
    (hT : t.Protocol) (hknown : t.request r.interface (opcodeField r.bytes) ≠ none)
    (hok : (WaylandProxy.handleRequestFrame t s { wireBytes := r.bytes } created).1 = none) :
    Served t g n (fun x => made x ∨ ¬ r.OnStub t ∧ x ∈ r.creates.map Prod.fst)
      (fun x => gone x ∨ r.destroys = true ∧ x = r.object)
      (WaylandProxy.handleRequestFrame t s { wireBytes := r.bytes } created).2 := by
  have hsame : g.Extends g := fun _ _ h => h
  have hbelow : ∀ id, g id ≠ none → g id = none → id < firstServerSideId := fun _ h h' => absurd h' h
  obtain ⟨spec, hspec⟩ := Option.ne_none_iff_exists'.1 hknown
  obtain ⟨args, hargs, hcreates, hdestroys, -⟩ := hr.known spec hspec
  have hentry : ∀ e, s.objects r.object = some e → e.interface = r.interface ∧ (e.proxy = none ↔ r.OnStub t) := by
    intro e he
    obtain ⟨hname, hstub⟩ := h.entries _ e he
    have hface := Option.some.inj (hname.symm.trans hr.object)
    refine ⟨hface, ?_⟩
    unfold Request.OnStub
    rw [← hface]
    exact hstub
  have hone : (creations args).length ≤ 1 := (length_creations hargs).trans_le (newIdCount_request hT hspec)
  have hunderstood : ∀ e proxy spec' args', WaylandProxy.Understood t s { wireBytes := r.bytes } e proxy spec' args' →
      spec' = spec ∧ args' = args ∧ ¬ r.OnStub t := by
    intro e proxy spec' args' u
    obtain ⟨hface, hstub⟩ := hentry e u.found
    obtain rfl := Option.some.inj (u.known.symm.trans (hface ▸ hspec))
    refine ⟨rfl, Option.some.inj (u.decoded.symm.trans hargs), fun hon => ?_⟩
    cases u.live.symm.trans (hstub.2 hon)
  have hh := WaylandProxy.handles t s { wireBytes := r.bytes } created
  generalize WaylandProxy.handleRequestFrame t s { wireBytes := r.bytes } created = out at hok hh ⊢
  obtain ⟨res, s'⟩ := out
  cases hh with
  | refused => cases hok
  | @onStub e found stub =>
    obtain ⟨hface, hstub⟩ := hentry e found
    have hon := hstub.1 stub
    dsimp only
    rw [hface, hspec, Option.any_some, ← hdestroys]
    cases r.destroys with
    | false => exact h.congr hsame hbelow (fun x => by simp [hon]) fun x hx => .inl hx
    | true =>
      exact (h.erase r.object).congr hsame hbelow (fun x => by simp [hon]) fun x hx => hx.imp_right fun hx => ⟨rfl, hx⟩
  | @makesStub e proxy spec' args' stub u unknown =>
    obtain ⟨rfl, rfl, hon⟩ := hunderstood e proxy spec' args' u
    have hgather := gather_spec (t := t) (s := s) (((s.proxies proxy).map Proxy.version).getD 0)
      { version := ((s.proxies proxy).map Proxy.version).getD 0 } hone
    rw [show List.foldlM _ _ args' = _ from unknown] at hgather
    obtain ⟨hcreated, hproxy, hlookup⟩ := hgather
    obtain ⟨hname, hlt, -⟩ := hr.creates (stub.1, stub.2.interface) (by rw [hcreates, hcreated]; exact List.mem_singleton_self _)
    refine (h.stub hname hlt hproxy hlookup).congr hsame hbelow (fun x => ?_) fun x hx => .inl hx
    rw [hcreates, hcreated]
    simp [hon]
  | @marshals e proxy spec' args' acc u gathered =>
    obtain ⟨rfl, rfl, hon⟩ := hunderstood e proxy spec' args' u
    have hgather := gather_spec (t := t) (s := s) (((s.proxies proxy).map Proxy.version).getD 0)
      { version := ((s.proxies proxy).map Proxy.version).getD 0 } hone
    rw [show List.foldlM _ _ args' = _ from gathered] at hgather
    have hnew : ∀ i, acc.interface = some i → g acc.newId = some i ∧ i ≠ displayName ∧
        t.lookupWlInterface i = true ∧ acc.newId ≠ r.object := by
      intro i hi
      rcases hgather with ⟨-, hnone, -⟩ | ⟨j, hcreated, hj, hlookup⟩
      · cases hi.symm.trans hnone
      · obtain rfl := Option.some.inj (hi.symm.trans hj)
        have hmem : (acc.newId, i) ∈ r.creates := by
          rw [hcreates, hcreated]
          exact List.mem_singleton_self _
        obtain ⟨hname, -, hdisplay⟩ := hr.creates _ hmem
        exact ⟨hname, hdisplay, hlookup, fun heq => hr.self (List.mem_map.2 ⟨_, hmem, heq⟩)⟩
    refine (h.marshal u.found u.live hnew hok).congr hsame hbelow (fun x => ?_) fun x hx => by
      rw [hdestroys]
      exact hx
    rcases hgather with ⟨hnil, hnone, -⟩ | ⟨j, hcreated, hj, -⟩
    · rw [hcreates, hnil, hnone]
      simp
    · rw [hcreates, hcreated, hj]
      simp [hon]

end

end VkRemote.Wayland
