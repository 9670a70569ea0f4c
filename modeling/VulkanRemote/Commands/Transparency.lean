import VulkanRemote.Commands.Tables
import VulkanRemote.DataQueries

/-! The calls of an application that go through a session do what they would do on the driver itself. -/

namespace VkRemote.Commands

open Lib Wire Marshal Decode Server

/-! ### Requests as they are read -/

section

variable {hr : Resolver}

theorem takes_readFor {α : Type} {m : Decode α} {bytes : List UInt8} {a : α} {device : UInt64}
    (devices : UInt64 → UInt64) (hdevice : devices device ≠ 0) (hm : Takes m hr bytes a) :
    Takes (readFor devices m) hr (Writer.handle device ++ bytes) (devices device, a) :=
  .bind .u64 (.skip .requireOk (.skip (.require hdevice) (takes_then hm (.of_reads .pure))))

theorem takes_freedSets {pool : UInt64} {count : UInt32} {pSets : Ptr (Elements UInt64 count.toNat)}
    (hnull : hr.KeepsNull) (hpool : hr .descriptorPool pool ≠ 0) (hvalid : validArray pSets) (hreal : pSets.Real) :
    Takes readFreedSets hr (Writer.handle pool ++ writeCounted Writer.handle count pSets)
      (hr .descriptorPool pool, ⟨count, pSets.received id⟩) := by
  rw [← List.append_nil (writeCounted Writer.handle count pSets), ← resolved_of_keepsNull hnull]
  refine .bind (reads_native hnull) (.bind (reads_backed hvalid.1 (whole_of_validArray hvalid hreal)
    (fun id _ => .u64) (by decide) (fun id _ => (length_handle id).ge) 8) (takes_end ⟨rfl, ?_⟩))
  rwa [resolved_of_keepsNull hnull]

theorem takes_poolReset {pool : UInt64} (flags : UInt32) (hnull : hr.KeepsNull)
    (hpool : hr .descriptorPool pool ≠ 0) :
    Takes readPoolReset hr (Writer.handle pool ++ Writer.u32 flags) (hr .descriptorPool pool, flags) := by
  rw [← List.append_nil (Writer.u32 flags), ← resolved_of_keepsNull hnull]
  refine .bind (reads_native hnull) (.bind .u32 (takes_end ⟨?_, rfl⟩))
  rwa [resolved_of_keepsNull hnull]

/-- A submission begins with its queue. -/
theorem queue_of_write {q : Submission} {bytes : List UInt8} (hw : q.write = some bytes) :
    (Reader.handle ⟨bytes, false⟩).1 = q.queue := by
  have hfirst : ∀ tail, (Reader.handle ⟨Writer.handle q.queue ++ tail, false⟩).1 = q.queue := fun tail =>
    congrArg Prod.fst (Reader.u64_writer tail q.queue)
  cases q with
  | submit q =>
    obtain ⟨-, hw⟩ := Option.ite_none_right_eq_some.1 hw
    obtain ⟨submits, -, hw⟩ := Option.bind_eq_some_iff.1 hw
    obtain rfl := Option.some.inj hw
    simp only [List.append_assoc]
    exact hfirst _
  | submit2 q =>
    obtain ⟨-, hw⟩ := Option.ite_none_right_eq_some.1 hw
    obtain ⟨submits, -, hw⟩ := Option.bind_eq_some_iff.1 hw
    obtain rfl := Option.some.inj hw
    simp only [List.append_assoc]
    exact hfirst _

end

/-! ### Replies as they are read -/

section

variable {result : UInt32}

theorem readElements_write (ids : List UInt64) (tail : List UInt8) :
    Client.readElements Reader.handle ids.length ⟨ids.flatMap Writer.handle ++ tail, false⟩ =
      (ids, ⟨tail, false⟩) := by
  induction ids with
  | nil => rfl
  | cons id ids ih =>
    have hfirst : Reader.handle ⟨Writer.handle id ++ (ids.flatMap Writer.handle ++ tail), false⟩ =
        (id, ⟨ids.flatMap Writer.handle ++ tail, false⟩) := Reader.u64_writer ..
    rw [List.length_cons, List.flatMap_cons, List.append_assoc, Client.readElements, hfirst, ih]

theorem readHeader_write (count : UInt32) (tail : List UInt8) :
    Client.readHeader ⟨Writer.i32 result ++ (Writer.u32 count ++ tail), false⟩ =
      { result, count, rest := ⟨tail, false⟩ } := by
  simp [Client.readHeader, Writer.i32]

theorem takeIds_reply {count : UInt32} {ids : List UInt64} (lost : UInt32)
    (hcount : count.toNat ≤ kMaxArrayElements) (hids : ids.length = count.toNat) :
    (Client.takeIds count lost (Writer.u32 statusOk ++ (Writer.i32 result ++ (Writer.u32 count ++
        ids.flatMap Writer.handle)))).result = result ∧
      (Client.takeIds count lost (Writer.u32 statusOk ++ (Writer.i32 result ++ (Writer.u32 count ++
        ids.flatMap Writer.handle)))).stores = ids.zipIdx := by
  have hread := readElements_write ids []
  rw [List.append_nil, hids] at hread
  rw [Client.takeIds, if_neg (Nat.not_lt.2 hcount), roundTrip_ok]
  simp [readHeader_write, Client.Header.bounded, Client.Header.backs, Reader.ok, Reader.remaining, hcount, hids.ge,
    hread]

/-- The client finds in the reply what the handler has put there. -/
theorem answer_reply {m : Making} {bytes : List UInt8} {ids : List UInt64} (result : UInt32)
    (hw : m.write = some bytes) (h : m.Whole) (hids : ids.length = m.count) :
    (m.answer (Writer.u32 statusOk ++ (Writer.i32 result ++ (m.counted.elim [] Writer.u32 ++
        ids.flatMap Writer.handle)))).result = result ∧
      (m.answer (Writer.u32 statusOk ++ (Writer.i32 result ++ (m.counted.elim [] Writer.u32 ++
        ids.flatMap Writer.handle)))).stores = m.handed result ids := by
  cases m with
  | one o info =>
    obtain ⟨id, rfl⟩ := List.length_eq_one_iff.1 hids
    have hreply : Client.roundTrip (Writer.u32 statusOk ++ (Writer.i32 result ++ ([] ++
        [id].flatMap Writer.handle))) = some ⟨Writer.i32 result ++ Writer.handle id, false⟩ := by
      rw [roundTrip_ok]
      simp
    have hresult : Reader.i32 ⟨Writer.i32 result ++ Writer.handle id, false⟩ =
        (result, ⟨Writer.handle id, false⟩) := Reader.u32_writer ..
    have hhandle : Reader.handle ⟨Writer.handle id, false⟩ = (id, ⟨[], false⟩) := Reader.u64_writer_last id
    unfold Making.answer Making.counted Created.answer Making.handed
    simp only [Option.elim_none, hreply, hresult, hhandle]
    simp [Reader.ok]
    rfl
  | graphicsPipelines cache count infos =>
    obtain ⟨hvalid, -⟩ := Option.ite_none_right_eq_some.1 hw
    exact takeIds_reply Client.VkResult.errorInitializationFailed hvalid.1 hids
  | computePipelines cache count infos =>
    have hread := readElements_write ids []
    rw [List.append_nil, show ids.length = count.toNat from hids] at hread
    unfold Making.answer Client.createComputePipelines
    simp only [Making.counted, Option.elim_some, roundTrip_ok]
    simp [readHeader_write, Reader.ok, hread, Making.handed]
  | commandBuffers info =>
    have hread := readElements_write ids []
    rw [List.append_nil, show ids.length = info.commandBufferCount.toNat from hids] at hread
    unfold Making.answer Client.allocateCommandBuffers
    simp only [Making.counted, Option.elim_some, roundTrip_ok]
    simp [readHeader_write, hread, Making.handed]
  | descriptorSets info =>
    obtain ⟨⟨-, hvalid, -⟩, -⟩ := Option.ite_none_right_eq_some.1 hw
    exact takeIds_reply Client.VkResult.errorOutOfPoolMemory hvalid.1 hids

theorem readResult_reply : Request.readResult (Writer.u32 statusOk ++ Writer.i32 result) = { result } := by
  have hresult : Reader.i32 ⟨Writer.i32 result, false⟩ = (result, ⟨[], false⟩) := Reader.u32_writer_last result
  unfold Request.readResult
  rw [roundTrip_ok]
  simp [hresult, Reader.ok]

theorem readWholeResult_reply :
    Request.readWholeResult (Writer.u32 statusOk ++ Writer.i32 result) = { result } := by
  have hresult : Reader.i32 ⟨Writer.i32 result, false⟩ = (result, ⟨[], false⟩) := Reader.u32_writer_last result
  unfold Request.readWholeResult
  rw [roundTrip_ok]
  simp [hresult, Reader.ok, Reader.remaining]

theorem readSubmitted_reply (o : SubmitOpcode) (errors : UInt32) :
    Request.readSubmitted o (Writer.u32 statusOk ++ (Writer.i32 result ++ Writer.u32 errors)) =
      { result, errors := some errors } := by
  have hresult : Reader.i32 ⟨Writer.i32 result ++ Writer.u32 errors, false⟩ =
      (result, ⟨Writer.u32 errors, false⟩) := Reader.u32_writer ..
  unfold Request.readSubmitted
  rw [roundTrip_ok]
  simp [hresult, Reader.u32_writer_last, Reader.ok, Reader.remaining]

end

namespace Machine

variable {σ : Type} (D : Driver σ) (s : Machine σ)

/-- A request was served as the call would have been made. -/
structure Serves (r : Request) (t : Machine σ × List UInt8) : Prop where
  world : t.1.world = (s.world.call D r).1
  noted : t.1.Noted
  outcome : r.outcome t.2 = (s.world.call D r).2

variable {D s}

theorem resolver_eq : s.resolver = s.world.names := by
  funext kind id
  exact congrArg (fun native => Option.getD native 0) (Table.get_eq_entry ..)

theorem names_null : s.world.names.KeepsNull := fun _ => rfl

theorem decode_of_takes {α : Type} {m : Decode α} {request : List UInt8} {a : α}
    (h : Takes m s.world.names request a) : s.decode m request = some a := by
  rw [← resolver_eq] at h
  obtain ⟨t, hrun, -⟩ := h { reader := ⟨request, false⟩ } rfl
  rw [decode, hrun]

theorem counted_received (hr : Resolver) (m : Making) : (m.received hr).counted = m.counted := by
  cases m <;> rfl

theorem count_received (hr : Resolver) (m : Making) : (m.received hr).count = m.count := by
  rw [Making.count, counted_received, Making.count]

theorem asks_received (hr : Resolver) (m : Making) : (m.received hr).asks = m.asks := by
  cases m <;> rfl

theorem length_keepAll (device : UInt64) (m : Making) (result : UInt32) (natives : List UInt64)
    (t : ObjectTables UInt64) : (keepAll device m result natives t).2.length = natives.length := by
  induction natives generalizing t with
  | nil => rfl
  | cons native natives ih =>
    unfold keepAll
    split <;> exact congrArg Nat.succ (ih _)

theorem serves_make {device : UInt64} {m : Making} {bytes : List UInt8}
    (hadmits : s.world.Admits D (.make device m)) (hnoted : s.Noted) (hw : m.write = some bytes) :
    s.Serves D (.make device m) (s.handleMake D m.opcode (Writer.handle device ++ bytes)) := by
  obtain ⟨hdevice, hwhole, hfinds, hasks, hhas⟩ := hadmits
  have hdecode : s.decode (readFor s.device m.opcode.read) (Writer.handle device ++ bytes) =
      some (s.world.deviceOf device, m.received s.world.names) :=
    decode_of_takes (takes_readFor s.device hdevice (takes_making hw hwhole names_null hfinds))
  have hasks : (m.received s.world.names).asks = true := (asks_received _ m).trans hasks
  let call := Request.make (s.world.deviceOf device) (m.received s.world.names)
  let natives := s.natives D (s.world.deviceOf device) (m.received s.world.names)
  have hlength : (keepAll (s.world.deviceOf device) (m.received s.world.names) (s.result D call) natives
      s.tables).2.length = m.count := by
    rw [length_keepAll, ← count_received s.world.names]
    exact (List.length_map _).trans List.length_range
  obtain ⟨hworld, hids⟩ := world_keepAll (s.after D call) (s.world.deviceOf device) (m.received s.world.names)
    (s.result D call) natives
  obtain ⟨hresult, hstores⟩ := answer_reply (s.result D call) hw hwhole hlength
  unfold handleMake
  rw [hdecode]
  dsimp only
  rw [if_pos hhas, if_pos hasks, if_pos hasks, if_pos hasks, counted_received]
  refine ⟨hworld, noted_keepAll (s := s.after D call) hnoted, ?_⟩
  refine (congrArg₂ (fun result ids => ({ result, ids } : Outcome)) hresult hstores).trans ?_
  rw [show (keepAll (s.world.deviceOf device) (m.received s.world.names) (s.result D call) natives s.tables).2 =
    _ from hids]
  rfl

theorem serves_destroy {device object : UInt64} {d : Destroyed}
    (hadmits : s.world.Admits D (.destroy device d object)) (hnoted : s.Noted) :
    s.Serves D (.destroy device d object)
      (s.handleDestroy D d (Writer.handle device ++ Writer.handle object), []) := by
  obtain ⟨tables, hhandled, hworld, hleft⟩ := handle_destroy hadmits hnoted
  have hids := readIds_write device object []
  rw [List.append_nil] at hids
  have hname : ((s.tables.shelf d.shelf).get object.toNat).getD 0 = s.world.names (d.kind) object := by
    rw [← resolver_eq, resolver, Destroyed.placeOf_kind]
  unfold handleDestroy
  rw [hhandled, hids]
  dsimp only
  rw [if_neg Bool.false_ne_true, hname]
  refine ⟨?_, hleft, rfl⟩
  have hafter : ∀ w : World σ, w = s.world.forget d object →
      { w with driver := (D.call s.driver (.destroy (s.world.deviceOf device) d
        (s.world.names (d.kind) object))).1 } = (s.world.call D (.destroy device d object)).1 := by
    rintro w rfl
    cases d <;> rfl
  exact hafter _ hworld

theorem serves_free {device pool : UInt64} {ids : List UInt64}
    (hadmits : s.world.Admits D (.freeCommandBuffers device pool ids)) (hnoted : s.Noted) :
    s.Serves D (.freeCommandBuffers device pool ids)
      (s.handleFree D (Writer.handle device ++ (Writer.handle pool ++ (Writer.u32 (UInt32.ofNat ids.length) ++
        ids.flatMap Writer.handle))), []) := by
  obtain ⟨hdevice, hlength, hnodup⟩ := hadmits
  have hnodup' : (ids.map UInt64.toNat).Nodup := hnodup.map fun _ _ h => UInt64.toNat_inj.1 h
  have htaken : takenCommandBuffers (ids.map UInt64.toNat) s.tables = ids.map (s.world.names .commandBuffer) := by
    rw [takenCommandBuffers_of_nodup hnodup', List.map_map, ← resolver_eq]
    rfl
  have hpool : ((s.tables.owned .commandPools).get pool.toNat).getD 0 = s.world.names .commandPool pool := by
    rw [← resolver_eq]
    rfl
  have hworld := world_takeCommandBuffers (s.after D (.freeCommandBuffers (s.world.deviceOf device)
    (s.world.names .commandPool pool) (ids.map (s.world.names .commandBuffer)))) ids
  unfold handleFree
  rw [handle_free hdevice hlength, readIds_write, freed_write hlength, htaken]
  dsimp only
  rw [if_neg Bool.false_ne_true, hpool]
  have hleft := noted_fold (f := fun t id => t.takeCommandBuffer id.toNat) (fun _ _ => ⟨rfl, rfl⟩) ids hnoted
  exact ⟨hworld, hleft, rfl⟩

theorem serves_record {c : Command} {request : List UInt8} (hadmits : s.world.Admits D (.record c))
    (hnoted : s.Noted) (hw : c.write id = some request) :
    s.Serves D (.record c) (s.handleRecord D c.call.opcode request, []) := by
  obtain ⟨hwhole, hfinds, hreach⟩ := hadmits
  have hhandled : c.call.opcode.handle (s.functions D) s.resolver request =
      some (c.received id s.world.names) := by
    obtain ⟨t, hrun, -⟩ := takes_command hw hwhole names_null hfinds { reader := ⟨request, false⟩ } rfl
    have hbuffer : (c.received id s.world.names).commandBuffer = s.world.names .commandBuffer c.commandBuffer :=
      resolved_of_keepsNull names_null ..
    unfold Opcode.handle
    rw [resolver_eq, hrun]
    dsimp only
    rw [hbuffer]
    exact if_pos hreach
  unfold handleRecord
  rw [hhandled]
  dsimp only
  split
  · next hfailed => exact ⟨(if_pos hfailed).symm, hnoted, rfl⟩
  · next hdone => exact ⟨(if_neg hdone).symm, hnoted, rfl⟩

theorem serves_update {device : UInt64} {u : SetUpdates} {bytes : List UInt8}
    (hadmits : s.world.Admits D (.update device u)) (hnoted : s.Noted) (hw : u.write = some bytes) :
    s.Serves D (.update device u) (s.handleUpdate D (Writer.handle device ++ bytes), []) := by
  obtain ⟨hdevice, hwhole, hfinds⟩ := hadmits
  have hdecode : s.decode (readFor s.device SetUpdates.read) (Writer.handle device ++ bytes) =
      some (s.world.deviceOf device, u.received s.world.names) :=
    decode_of_takes (takes_readFor s.device hdevice (takes_setUpdates hw hwhole hfinds))
  unfold handleUpdate
  rw [hdecode]
  exact ⟨rfl, hnoted, rfl⟩

theorem serves_operate {device : UInt64} {c : DeviceCommand} {args : Args c.params}
    (hadmits : s.world.Admits D (.operate device c args)) (hnoted : s.Noted) :
    s.Serves D (.operate device c args)
      (s.handleOperate D c (Writer.handle device ++ writeArgs c.params args)) := by
  obtain ⟨hdevice, hneeded, hhas⟩ := hadmits
  have hdecode : s.decode (readFor s.device c.read) (Writer.handle device ++ writeArgs c.params args) =
      some (s.world.deviceOf device, receivedArgs s.world.names c.params args) :=
    decode_of_takes (takes_readFor s.device hdevice (takes_deviceCommand c names_null hneeded))
  unfold handleOperate
  rw [hdecode]
  dsimp only
  rw [if_pos hhas]
  refine ⟨rfl, hnoted, ?_⟩
  unfold Request.outcome World.call
  dsimp only
  split
  · exact readResult_reply
  · rfl

theorem world_settle {r : Request} {tables : ObjectTables UInt64} {w : World σ}
    (h : ({ s.after D r with tables := tables } : Machine σ).world = w) :
    (s.settle D r tables).1.world = if s.result D r = Server.success then w else (s.after D r).world := by
  unfold settle
  by_cases hdone : s.result D r = Server.success
  · rw [if_pos hdone, if_pos hdone]
    exact h
  · rw [if_neg hdone, if_neg hdone]
    rfl

theorem noted_settle {r : Request} {tables : ObjectTables UInt64} (hnoted : s.Noted)
    (h : ({ s with tables := tables } : Machine σ).Noted) : (s.settle D r tables).1.Noted := by
  unfold settle
  by_cases hdone : s.result D r = Server.success
  · rw [if_pos hdone]
    exact h
  · rw [if_neg hdone]
    exact hnoted

theorem serves_freeSets {device pool : UInt64} {count : UInt32} {pSets : Ptr (Elements UInt64 count.toNat)}
    (hadmits : s.world.Admits D (.freeDescriptorSets device pool count pSets)) (hnoted : s.Noted)
    (hvalid : validArray pSets) :
    s.Serves D (.freeDescriptorSets device pool count pSets)
      (s.handleFreeSets D (Writer.handle device ++ (Writer.handle pool ++
        writeCounted Writer.handle count pSets))) := by
  obtain ⟨hdevice, hpool, hreal, hsets⟩ := hadmits
  have hdecode : s.decode (readFor s.device readFreedSets) (Writer.handle device ++ (Writer.handle pool ++
      writeCounted Writer.handle count pSets)) =
        some (s.world.deviceOf device, s.world.names .descriptorPool pool, ⟨count, pSets.received id⟩) :=
    decode_of_takes (takes_readFor s.device hdevice (takes_freedSets names_null hpool hvalid hreal))
  have hitems : (pSets.received id).items = pSets.items := items_received.trans (List.map_id _)
  have hbelong : pSets.items.all (fun id => s.tables.setBelongs (s.world.deviceOf device)
      (s.world.names .descriptorPool pool) id.toNat) = true := by
    refine List.all_eq_true.2 fun id hid => ?_
    obtain ⟨hlive, howner⟩ := hsets id hid
    have hget : (s.tables.descriptorSets.get id.toNat).isSome = true := by
      rw [Table.get_eq_entry, Option.isSome_map]
      exact hlive
    have howner : s.tables.descriptorSetOwners id.toNat =
        some ⟨s.world.deviceOf device, s.world.names .descriptorPool pool⟩ := howner
    simp [ObjectTables.setBelongs, hget, howner]
  have hnatives : (pSets.received id).received (s.resolver .descriptorSet) =
      pSets.received (s.world.names .descriptorSet) :=
    received_received fun id _ => congrFun (congrFun resolver_eq _) id
  unfold handleFreeSets
  rw [hdecode]
  dsimp only
  rw [hitems, if_pos hbelong, hnatives]
  have hdropped := world_dropSets (s.after D (.freeDescriptorSets (s.world.deviceOf device)
    (s.world.names .descriptorPool pool) count (pSets.received (s.world.names .descriptorSet)))) pSets.items
  have hleft := noted_fold (f := fun t id => t.dropSet id.toNat) (fun _ _ => ⟨rfl, rfl⟩) pSets.items hnoted
  exact ⟨world_settle hdropped, noted_settle hnoted hleft, readWholeResult_reply⟩

theorem serves_resetPool {device pool : UInt64} {flags : UInt32}
    (hadmits : s.world.Admits D (.resetDescriptorPool device pool flags)) (hnoted : s.Noted) :
    s.Serves D (.resetDescriptorPool device pool flags)
      (s.handleResetPool D (Writer.handle device ++ (Writer.handle pool ++ Writer.u32 flags))) := by
  obtain ⟨hdevice, hpool⟩ := hadmits
  have hdecode : s.decode (readFor s.device readPoolReset) (Writer.handle device ++ (Writer.handle pool ++
      Writer.u32 flags)) = some (s.world.deviceOf device, s.world.names .descriptorPool pool, flags) :=
    decode_of_takes (takes_readFor s.device hdevice (takes_poolReset flags names_null hpool))
  have hdropped := world_dropSetsOf (s.after D (.resetDescriptorPool (s.world.deviceOf device)
    (s.world.names .descriptorPool pool) flags)) (s.world.names .descriptorPool pool)
  unfold handleResetPool
  rw [hdecode]
  dsimp only
  exact ⟨world_settle hdropped, noted_settle hnoted hnoted, readWholeResult_reply⟩

theorem serves_submit {q : Submission} {bytes : List UInt8} (hadmits : s.world.Admits D (.submit q))
    (hnoted : s.Noted) (hw : q.write = some bytes) : s.Serves D (.submit q) (s.handleSubmit D q.opcode bytes) := by
  obtain ⟨hwhole, hfinds, hreaches⟩ := hadmits
  have hdecode : s.decode (q.opcode.read s.queue) bytes = some (q.received s.world.queueOf s.world.names) :=
    decode_of_takes (takes_submission hw hwhole names_null hfinds)
  have howner : s.submitted bytes = s.world.queueDevice q.queue.toNat :=
    congrArg (fun id => s.tables.queues.owner (UInt64.toNat id)) (queue_of_write hw)
  unfold handleSubmit
  rw [hdecode, howner]
  dsimp only
  rw [if_pos hreaches]
  exact ⟨rfl, hnoted, readSubmitted_reply q.opcode s.errors⟩

/-- What a session does with a message is what the call does. -/
theorem serves_request {r : Request} {message : RequestOpcode × List UInt8} (hadmits : s.world.Admits D r)
    (hnoted : s.Noted) (hsent : r.encode = some message) : s.Serves D r (s.serve D message) := by
  obtain ⟨request, hw, rfl⟩ := Option.map_eq_some_iff.1 hsent
  clear hsent
  cases r with
  | make device m =>
    obtain ⟨bytes, hm, hw⟩ := Option.bind_eq_some_iff.1 hw
    obtain rfl := Option.some.inj hw
    show s.Serves D _ (s.handleMake D m.opcode (Writer.handle device ++ bytes))
    exact serves_make hadmits hnoted hm
  | destroy device d object =>
    obtain ⟨-, hw⟩ := Option.ite_none_left_eq_some.1 hw
    obtain rfl := Option.some.inj hw
    exact serves_destroy hadmits hnoted
  | freeCommandBuffers device pool ids =>
    obtain rfl := Option.some.inj hw
    exact serves_free hadmits hnoted
  | record c => exact serves_record hadmits hnoted hw
  | update device u =>
    obtain ⟨bytes, hu, hw⟩ := Option.bind_eq_some_iff.1 hw
    obtain rfl := Option.some.inj hw
    exact serves_update hadmits hnoted hu
  | operate device c args =>
    obtain ⟨-, hw⟩ := Option.ite_none_right_eq_some.1 hw
    obtain rfl := Option.some.inj hw
    exact serves_operate hadmits hnoted
  | freeDescriptorSets device pool count pSets =>
    obtain ⟨⟨-, hvalid, -⟩, hw⟩ := Option.ite_none_right_eq_some.1 hw
    obtain rfl := Option.some.inj hw
    exact serves_freeSets hadmits hnoted hvalid
  | resetDescriptorPool device pool flags =>
    obtain ⟨-, hw⟩ := Option.ite_none_right_eq_some.1 hw
    obtain rfl := Option.some.inj hw
    exact serves_resetPool hadmits hnoted
  | submit q => exact serves_submit hadmits hnoted hw

/-- A session and what is on its way to it. -/
abbrev Lagging (σ : Type) := Forwarded Request (RequestOpcode × List UInt8) (Machine σ) (List UInt8)

/-- The application calls, or the session serves the next message. -/
def step (D : Driver σ) : Lagging σ → Forwarded.Event Request → Option (Lagging σ) :=
  Forwarded.step Request.encode fun s message => serve D s message

/-- A session refines the world that its tables stand for. -/
theorem mirrors (D : Driver σ) : Forwarded.Mirrors Request.encode (fun s message => serve D s message)
    (World.service D) (fun w r => w.Admits D r) Request.outcome (fun w s => s.world = w ∧ s.Noted) where
  serve w s r message hrefines hadmits hw := by
    obtain ⟨rfl, hnoted⟩ := hrefines
    have hserves := serves_request hadmits hnoted hw
    exact ⟨⟨hserves.world, hserves.noted⟩, hserves.outcome⟩

end Machine

end VkRemote.Commands
