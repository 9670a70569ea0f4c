import VulkanRemote.Wayland.Codec

/-! When the two directions of the codec undo each other. `encode_message` bounds the body where the size
field holds the header too, and leaves the inline form of an untyped `new_id` out where its version is 0 or
its interface has no name; everywhere else the round trips hold. -/

namespace VkRemote.Wayland
open Lib

/-! ### What the encoder writes -/

/-- The room the format gives an argument. -/
def ArgSpec.wireSize (spec : ArgSpec) (a : DecodedArg) : ℕ :=
  match spec.type with
  | .int | .fixed | .uint | .object => 4
  | .string => blobSize (a.str.length + 1)
  | .array => blobSize a.array.length
  | .fd => 0
  | .newId =>
    match spec.interface with
    | some _ => 4
    | none => blobSize (a.str.length + 1) + 8

/-- The room `encode_message` takes for it: an untyped `new_id` is written inline only with both parts. -/
def encodedSize (a : DecodedArg) : ℕ :=
  match a.type with
  | .int | .fixed | .uint | .object => 4
  | .string => blobSize (a.str.length + 1)
  | .array => blobSize a.array.length
  | .fd => 0
  | .newId => (if a.str ≠ [] ∧ a.newIdVersion ≠ 0 then blobSize (a.str.length + 1) + 4 else 0) + 4

def bodySize : List DecodedArg → ℕ
  | [] => 0
  | a :: args => encodedSize a + bodySize args

/-- An untyped `new_id` has an interface name and a version that is not 0. -/
def ArgSpec.Inline (spec : ArgSpec) (a : DecodedArg) : Prop :=
  spec.type = .newId → spec.interface = none → a.str ≠ [] ∧ a.newIdVersion ≠ 0

instance (spec : ArgSpec) (a : DecodedArg) : Decidable (spec.Inline a) :=
  inferInstanceAs (Decidable (_ → _ → _))

section

variable {spec : ArgSpec} {specs : List ArgSpec} {a : DecodedArg} {args : List DecodedArg}
variable {bytes : List UInt8}

theorem length_putBlob (data : List UInt8) : (putBlob data).length = blobSize data.length := by
  simp only [putBlob, List.length_append, length_putU32, List.length_replicate, blobSize]
  omega

theorem putBlob_onWire {data : List UInt8} (h : (putBlob data).length < 2 ^ 32) :
    BlobOnWire data (putBlob data) := by
  rw [length_putBlob, blobSize] at h
  refine .mk (by omega) ?_
  rw [List.length_replicate, blobSize]
  omega

theorem length_encodeArg (a : DecodedArg) : (encodeArg a).length = encodedSize a := by
  obtain ⟨type, i32, u32, str, version, array, fd⟩ := a
  cases type with
  | int | fixed | uint | object | fd | array | string => simp [encodeArg, encodedSize, length_putBlob]
  | newId =>
    simp only [encodeArg, encodedSize]
    split <;> simp [length_putBlob]

theorem length_encodeBody (args : List DecodedArg) : (encodeBody args).length = bodySize args := by
  induction args with
  | nil => rfl
  | cons a args ih =>
    rw [encodeBody, List.flatMap_cons, List.length_append, length_encodeArg, bodySize, ← ih, encodeBody]

theorem ArgOnWire.length_eq (h : ArgOnWire spec a bytes) : bytes.length = spec.wireSize a := by
  obtain ⟨type, interface⟩ := spec
  obtain ⟨-, hw⟩ := h
  cases type with
  | int | fixed | uint | object =>
    obtain rfl := hw
    simp [ArgSpec.wireSize]
  | string => simpa [ArgSpec.wireSize] using hw.length_eq
  | array => simpa [ArgSpec.wireSize] using hw.length_eq
  | fd => simp [ArgSpec.wireSize, hw.2]
  | newId =>
    cases interface with
    | some i =>
      obtain rfl := hw
      simp [ArgSpec.wireSize]
    | none =>
      obtain ⟨blob, hb, rfl⟩ := hw
      simp [ArgSpec.wireSize, hb.length_eq]

/-- Where the encoder leaves the inline form out it writes less than the format asks for. -/
theorem encodedSize_lt (hm : spec.Matches a) (h : ¬ spec.Inline a) : encodedSize a < spec.wireSize a := by
  obtain ⟨type, interface⟩ := spec
  simp only [ArgSpec.Inline, Classical.not_imp] at h
  obtain ⟨rfl, rfl, hparts⟩ := h
  have ht : ArgType.newId = a.type := congrArg DecodedArg.type hm
  simp only [encodedSize, ArgSpec.wireSize, ← ht, if_neg hparts]
  omega

theorem encodedSize_eq (hm : spec.Matches a) (h : spec.Inline a) : encodedSize a = spec.wireSize a := by
  obtain ⟨type, interface⟩ := spec
  rw [← hm]
  cases type with
  | int | fixed | uint | object | fd | array | string => rfl
  | newId =>
    cases interface with
    | some i => simp [ArgSpec.restrict, encodedSize, ArgSpec.wireSize]
    | none => simp [ArgSpec.restrict, encodedSize, ArgSpec.wireSize, h rfl rfl]

theorem encodeArg_inline (ht : a.type = .newId) (hparts : a.str ≠ [] ∧ a.newIdVersion ≠ 0) :
    encodeArg a = putBlob (a.str ++ [0]) ++ (putU32 a.newIdVersion ++ putU32 a.u32) := by
  simp [encodeArg, ht, hparts]

theorem encodeArg_onWire (hm : spec.Matches a) (hi : spec.Inline a) (h : (encodeArg a).length < 2 ^ 32) :
    ArgOnWire spec a.inBand (encodeArg a) := by
  obtain ⟨type, interface⟩ := spec
  rw [← hm] at h ⊢
  cases type with
  | int | fixed | uint | object => exact ⟨rfl, rfl⟩
  | string => exact ⟨rfl, putBlob_onWire h⟩
  | array => exact ⟨rfl, putBlob_onWire h⟩
  | fd => exact ⟨rfl, rfl, rfl⟩
  | newId =>
    cases interface with
    | some i => exact ⟨rfl, by simp [ArgSpec.restrict, encodeArg, DecodedArg.inBand]⟩
    | none =>
      have henc := encodeArg_inline (a := ArgSpec.restrict ⟨.newId, none⟩ a) rfl (hi rfl rfl)
      rw [henc, List.length_append] at h
      exact ⟨rfl, _, putBlob_onWire (Nat.lt_of_le_of_lt (Nat.le_add_right _ _) h), henc⟩

/-- Two byte strings that differ in the padding behind a blob only. -/
inductive SameBlob : List UInt8 → List UInt8 → Prop
  | mk {content p q : List UInt8} : content.length + 4 < 2 ^ 32 → p.length = q.length →
      4 + content.length + p.length = blobSize content.length →
      SameBlob (putU32 (UInt32.ofNat content.length) ++ content ++ p)
        (putU32 (UInt32.ofNat content.length) ++ content ++ q)

/-- Both pieces have the room that the format gives the argument: a word, a blob, nothing for a descriptor, and two
words behind the name of an untyped `new_id`. -/
def SameArg (spec : ArgSpec) (b b' : List UInt8) : Prop :=
  match spec.type with
  | .int | .fixed | .uint | .object => b.length = 4 ∧ b = b'
  | .fd => b = [] ∧ b' = []
  | .string | .array => SameBlob b b'
  | .newId =>
    match spec.interface with
    | some _ => b.length = 4 ∧ b = b'
    | none => ∃ p p' words, SameBlob p p' ∧ words.length = 8 ∧ b = p ++ words ∧ b' = p' ++ words

/-- The same bytes up to the content of the padding, along the signature. -/
inductive SameBody : List ArgSpec → List UInt8 → List UInt8 → Prop
  | nil : SameBody [] [] []
  | cons {spec : ArgSpec} {specs : List ArgSpec} {b b' r r' : List UInt8} :
      SameArg spec b b' → SameBody specs r r' → SameBody (spec :: specs) (b ++ r) (b' ++ r')

theorem SameBlob.length_eq {b b' : List UInt8} (h : SameBlob b b') : b.length = b'.length := by
  cases h with
  | mk _ hpq _ => simp [hpq]

theorem SameArg.length_eq {b b' : List UInt8} (h : SameArg spec b b') : b.length = b'.length := by
  obtain ⟨type, interface⟩ := spec
  cases type with
  | int | fixed | uint | object => exact congrArg _ h.2
  | fd => exact congrArg _ (h.1.trans h.2.symm)
  | string | array => exact SameBlob.length_eq h
  | newId =>
    cases interface with
    | some i => exact congrArg _ h.2
    | none =>
      obtain ⟨p, p', words, hp, -, rfl, rfl⟩ := h
      rw [List.length_append, List.length_append, hp.length_eq]

theorem SameBody.length_eq {b b' : List UInt8} (h : SameBody specs b b') : b.length = b'.length := by
  induction h with
  | nil => rfl
  | cons ha _ ih => rw [List.length_append, List.length_append, ha.length_eq, ih]

theorem BlobOnWire.same {content b b' : List UInt8} (h : BlobOnWire content b) (h' : BlobOnWire content b') :
    SameBlob b b' := by
  cases h with
  | mk hsize hp =>
    cases h' with
    | mk _ hq => exact .mk hsize (by omega) hp

theorem ArgOnWire.same {b b' : List UInt8} (h : ArgOnWire spec a b) (h' : ArgOnWire spec a b') :
    SameArg spec b b' := by
  obtain ⟨type, interface⟩ := spec
  obtain ⟨-, hw⟩ := h
  obtain ⟨-, hw'⟩ := h'
  cases type with
  | int | fixed | uint | object => exact ⟨hw ▸ length_putU32 _, hw.trans hw'.symm⟩
  | fd => exact ⟨hw.2, hw'.2⟩
  | string | array => exact BlobOnWire.same hw hw'
  | newId =>
    cases interface with
    | some i => exact ⟨hw ▸ length_putU32 _, hw.trans hw'.symm⟩
    | none =>
      obtain ⟨p, hp, rfl⟩ := hw
      obtain ⟨p', hp', rfl⟩ := hw'
      exact ⟨p, p', _, hp.same hp', by simp, rfl, rfl⟩

/-- Wire forms of the same arguments differ in the padding only. -/
theorem OnWire.same {b b' : List UInt8} (h : OnWire specs args b) (h' : OnWire specs args b') :
    SameBody specs b b' := by
  induction h generalizing b' with
  | nil =>
    cases h' with
    | nil => exact .nil
  | cons ha _ ih =>
    cases h' with
    | cons ha' hs' => exact .cons (ha.same ha') (ih hs')

/-- Every argument of the signature is of its kind, or can be written inline where that is its form. -/
abbrev Matches (specs : List ArgSpec) (args : List DecodedArg) : Prop :=
  List.Forall₂ ArgSpec.Matches specs args

abbrev Inline (specs : List ArgSpec) (args : List DecodedArg) : Prop :=
  List.Forall₂ ArgSpec.Inline specs args

def wireSize : List ArgSpec → List DecodedArg → ℕ
  | spec :: specs, a :: args => spec.wireSize a + wireSize specs args
  | _, _ => 0

theorem OnWire.length_eq (h : OnWire specs args bytes) : bytes.length = wireSize specs args := by
  induction h with
  | nil => rfl
  | cons ha _ ih => rw [List.length_append, ha.length_eq, ih, wireSize]

theorem wireSize_inBand (specs : List ArgSpec) (args : List DecodedArg) :
    wireSize specs (args.map DecodedArg.inBand) = wireSize specs args := by
  induction specs generalizing args with
  | nil => cases args <;> rfl
  | cons spec specs ih =>
    cases args with
    | nil => rfl
    | cons a args => rw [List.map_cons, wireSize, wireSize, ih]; rfl

theorem ArgOnWire.inBand_eq (h : ArgOnWire spec a bytes) : a.inBand = a := by
  obtain ⟨type, interface⟩ := spec
  obtain ⟨hm, hw⟩ := h
  rw [← hm] at hw ⊢
  cases type with
  | fd => exact congrArg (fun f => DecodedArg.mk .fd 0 0 [] 0 [] f) hw.1.symm
  | newId => cases interface <;> rfl
  | _ => rfl

/-- No descriptor comes off the byte stream. -/
theorem OnWire.map_inBand (h : OnWire specs args bytes) : args.map DecodedArg.inBand = args := by
  induction h with
  | nil => rfl
  | cons ha _ ih => rw [List.map_cons, ha.inBand_eq, ih]

theorem OnWire.matches (h : OnWire specs args bytes) : Matches specs args := by
  induction h with
  | nil => exact .nil
  | cons ha _ ih => exact .cons ha.1 ih

theorem bodySize_le (h : Matches specs args) : bodySize args ≤ wireSize specs args := by
  induction h with
  | nil => exact Nat.le_refl 0
  | @cons spec a specs args hm _ ih =>
    have ha : encodedSize a ≤ spec.wireSize a := by
      by_cases hi : spec.Inline a
      · exact (encodedSize_eq hm hi).le
      · exact (encodedSize_lt hm hi).le
    rw [bodySize, wireSize]
    omega

theorem bodySize_eq_iff (h : Matches specs args) : bodySize args = wireSize specs args ↔ Inline specs args := by
  induction h with
  | nil => exact ⟨fun _ => .nil, fun _ => rfl⟩
  | @cons spec a specs args hm hms ih =>
    have hle := bodySize_le hms
    rw [bodySize, wireSize, Inline, List.forall₂_cons]
    by_cases hi : spec.Inline a
    · rw [encodedSize_eq hm hi, Nat.add_left_cancel_iff, ih]
      exact ⟨fun h => ⟨hi, h⟩, fun h => h.2⟩
    · have hlt := encodedSize_lt hm hi
      exact ⟨fun h => by omega, fun h => absurd h.1 hi⟩

theorem encodeBody_onWire (hm : Matches specs args) (hi : Inline specs args)
    (h : (encodeBody args).length < 2 ^ 32) : OnWire specs (args.map DecodedArg.inBand) (encodeBody args) := by
  induction hm with
  | nil => exact .nil
  | @cons spec a specs args hma _ ih =>
    rw [Inline, List.forall₂_cons] at hi
    rw [encodeBody, List.flatMap_cons] at h ⊢
    rw [List.length_append] at h
    exact .cons (encodeArg_onWire hma hi.1 (by omega)) (ih hi.2 (by rw [encodeBody]; omega))

/-- An encoded body is the wire form of its arguments exactly where nothing was left out of it. -/
theorem decodeMessage_encodeBody_iff (hm : Matches specs args) (hsize : (encodeBody args).length < 2 ^ 32) :
    decodeMessage specs (encodeBody args) = some (args.map DecodedArg.inBand) ↔ Inline specs args := by
  rw [decodeMessage_eq_some_iff hsize]
  refine ⟨fun h => ?_, fun hi => encodeBody_onWire hm hi hsize⟩
  rw [← bodySize_eq_iff hm, ← length_encodeBody, h.length_eq, wireSize_inBand]

theorem exists_encodeMessage (objectId : UInt32) (opcode : UInt16) (h : bodySize args ≤ 0xffff) :
    ∃ out, encodeMessage objectId opcode args = some out := by
  rw [← length_encodeBody] at h
  exact ⟨_, encodeMessage_eq_some_iff.2 ⟨h, rfl⟩⟩

/-- The size field holds the whole length unless it is cut to 16 bits. -/
theorem sizeField_eq_iff {objectId : UInt32} {opcode : UInt16} {out : List UInt8}
    (h : encodeMessage objectId opcode args = some out) :
    (sizeField out).toNat = out.length ↔ bodySize args + 8 ≤ 0xffff := by
  have hbody := (encodeMessage_eq_some_iff.1 h).1
  rw [length_encodeBody] at hbody
  rw [sizeField_encodeMessage h, length_encodeMessage h, length_encodeBody, UInt16.toNat_ofNat']
  omega

/-- Re-encoding what was decoded gives the payload back, padding aside, exactly where nothing is left out. -/
theorem same_encodeBody_iff {payload : List UInt8} (h : OnWire specs args payload)
    (hsize : payload.length < 2 ^ 32) : SameBody specs payload (encodeBody args) ↔ Inline specs args := by
  have hm := h.matches
  constructor
  · intro hsame
    rw [← bodySize_eq_iff hm, ← length_encodeBody, ← hsame.length_eq, h.length_eq]
  · intro hi
    have hlen : (encodeBody args).length = payload.length := by
      rw [length_encodeBody, (bodySize_eq_iff hm).2 hi, h.length_eq]
    have henc := encodeBody_onWire hm hi (by omega)
    rw [h.map_inBand] at henc
    exact h.same henc

/-- Encoding and decoding undo each other exactly where the whole message fits the size field and every
untyped `new_id` has a name and a version; a payload comes back, padding aside, under the same condition. -/
theorem codec_round_trips_iff (specs : List ArgSpec) (objectId : UInt32) (opcode : UInt16) :
    (∀ args, Matches specs args →
      ((∀ out, encodeMessage objectId opcode args = some out →
          (sizeField out).toNat = out.length ∧
          decodeMessage specs (out.drop 8) = some (args.map DecodedArg.inBand)) ↔
        0xffff < bodySize args ∨ (bodySize args + 8 ≤ 0xffff ∧ Inline specs args))) ∧
    (∀ payload args, decodeMessage specs payload = some args →
      ((∃ out, encodeMessage objectId opcode args = some out ∧ SameBody specs payload (out.drop 8)) ↔
        payload.length ≤ 0xffff ∧ ∀ args', OnWire specs args' payload → Inline specs args')) := by
  constructor
  · intro args hm
    constructor
    · intro h
      rcases Nat.lt_or_ge 0xffff (bodySize args) with hbig | hfit
      · exact .inl hbig
      · obtain ⟨out, hout⟩ := exists_encodeMessage objectId opcode hfit
        obtain ⟨hfield, hdec⟩ := h _ hout
        rw [body_encodeMessage hout] at hdec
        refine .inr ⟨(sizeField_eq_iff hout).1 hfield, (decodeMessage_encodeBody_iff hm ?_).1 hdec⟩
        rw [length_encodeBody]
        omega
    · intro h out hout
      have hbody := (encodeMessage_eq_some_iff.1 hout).1
      rw [length_encodeBody] at hbody
      obtain hbig | ⟨hfit, hi⟩ := h
      · omega
      · rw [body_encodeMessage hout]
        refine ⟨(sizeField_eq_iff hout).2 hfit, (decodeMessage_encodeBody_iff hm ?_).2 hi⟩
        rw [length_encodeBody]
        omega
  · intro payload args hdec
    constructor
    · rintro ⟨out, hout, hsame⟩
      have hbody := (encodeMessage_eq_some_iff.1 hout).1
      rw [body_encodeMessage hout] at hsame
      rw [← hsame.length_eq] at hbody
      have hsize : payload.length < 2 ^ 32 := by omega
      have hw := (decodeMessage_eq_some_iff hsize).1 hdec
      refine ⟨hbody, fun args' hw' => ?_⟩
      obtain rfl := Option.some.inj (hdec.symm.trans (decodeMessage_of_onWire hw'))
      exact (same_encodeBody_iff hw hsize).1 hsame
    · rintro ⟨hfit, hi⟩
      have hsize : payload.length < 2 ^ 32 := by omega
      have hw := (decodeMessage_eq_some_iff hsize).1 hdec
      have hsame := (same_encodeBody_iff hw hsize).2 (hi args hw)
      have hbody : bodySize args ≤ 0xffff := by rwa [← length_encodeBody, ← hsame.length_eq]
      obtain ⟨out, hout⟩ := exists_encodeMessage objectId opcode hbody
      exact ⟨out, hout, by rwa [body_encodeMessage hout]⟩

end

/-- `wl_registry.bind`: the global's name, then an object of an interface the signature does not say. -/
def bindSpecs : List ArgSpec := [⟨.uint, none⟩, ⟨.newId, none⟩]

def bindArgs (version : UInt32) : List DecodedArg :=
  [{ type := .uint, u32 := 1 }, { type := .newId, u32 := 3, str := name "wl_seat", newIdVersion := version }]

/-- A bind with version 4 and the payload it is read from. -/
theorem codec_round_trips_iff_bind :
    (∀ out, encodeMessage 2 0 (bindArgs 4) = some out →
      (sizeField out).toNat = out.length ∧ decodeMessage bindSpecs (out.drop 8) = some (bindArgs 4)) ∧
    ∃ out, encodeMessage 2 0 (bindArgs 4) = some out ∧
      SameBody bindSpecs (encodeBody (bindArgs 4)) (out.drop 8) := by
  have hm : Matches bindSpecs (bindArgs 4) := by with_unfolding_all decide
  have hi : Inline bindSpecs (bindArgs 4) := by with_unfolding_all decide
  have hdec : decodeMessage bindSpecs (encodeBody (bindArgs 4)) = some (bindArgs 4) := by with_unfolding_all decide
  refine ⟨((codec_round_trips_iff bindSpecs 2 0).1 _ hm).2 (.inr ⟨by with_unfolding_all decide, hi⟩),
    ((codec_round_trips_iff bindSpecs 2 0).2 _ _ hdec).2 ⟨by with_unfolding_all decide, fun args' hw => ?_⟩⟩
  obtain rfl := Option.some.inj (hdec.symm.trans (decodeMessage_of_onWire hw))
  exact hi

/-- A bind with version 0 is encoded as an id alone, which the decoder refuses; its payload is read and
comes back shorter. An array of 65524 bytes is encoded with the size field at 0. -/
theorem codec_loses_bind_and_size :
    (∃ out, encodeMessage 2 0 (bindArgs 0) = some out ∧
      decodeMessage bindSpecs (out.drop 8) ≠ some (bindArgs 0)) ∧
    (∃ payload, decodeMessage bindSpecs payload = some (bindArgs 0) ∧
      ∀ out, encodeMessage 2 0 (bindArgs 0) = some out → ¬ SameBody bindSpecs payload (out.drop 8)) ∧
    ∃ out, encodeMessage 2 0 [{ type := .array, array := List.replicate 65524 0 }] = some out ∧
      (sizeField out).toNat = 0 ∧ out.length = 65536 := by
  refine ⟨⟨putU32 2 ++ putU32 (header2 8 0) ++ putU32 1 ++ putU32 3, by with_unfolding_all decide,
      by with_unfolding_all decide⟩,
    ⟨putU32 1 ++ putBlob (name "wl_seat" ++ [0]) ++ putU32 0 ++ putU32 3, by with_unfolding_all decide, ?_⟩, ?_⟩
  · intro out hout hsame
    have hlen := hsame.length_eq
    rw [body_encodeMessage hout] at hlen
    revert hlen
    with_unfolding_all decide
  · have hbody : bodySize [{ type := .array, array := List.replicate 65524 0 }] = 65528 := by
      have harray (data : List UInt8) : bodySize [{ type := .array, array := data }] = blobSize data.length :=
        rfl
      rw [harray, List.length_replicate]
      rfl
    obtain ⟨out, hout⟩ := exists_encodeMessage 2 0 (hbody.trans_le (by decide))
    refine ⟨out, hout, ?_, ?_⟩
    · rw [sizeField_encodeMessage hout, length_encodeBody, hbody]
      rfl
    · rw [length_encodeMessage hout, length_encodeBody, hbody]

end VkRemote.Wayland
