import SparkX.Cluster.DataPlane.Model

set_option autoImplicit false

namespace SparkX

open Std

variable {F : Type} [BlockFormats F]

namespace BlockStorage

variable {storage : BlockStorage F} {ticket : String} {block : StoredBlock F}

theorem insert_stored (stored : storage.Stores ticket block) (faults : Faults) (other : StoredBlock F) :
    (insert faults ticket other).run storage =
      ((DiskBlockStore.sameChecksum block.checksum other.checksum).mapError .error, storage) := by
  cases storage with
  | memory store =>
    have found : store.blocks[ticket]? = some block := stored
    change (MemoryBlockStore.insert ticket other).within BlockStorage.memory store = _
    simp only [Stateful.within, MemoryBlockStore.insert, Stateful.run_bind_get, found]
    rfl
  | disk store =>
    obtain ⟨entry, found, same⟩ := stored
    change (DiskBlockStore.insert faults ticket other).within BlockStorage.disk store = _
    simp only [Stateful.within, DiskBlockStore.insert, Stateful.run_bind_get, found, same]
    rfl

-- What an upload of these batches needs is left by the blocks of the other tickets. A memory store
-- is charged for the same buffers that the stream is measured by.
def HasRoom (storage : BlockStorage F) (ticket : String) (batches : List (RecordBatch F)) : Prop :=
  match storage with
  | .memory _ => True
  | .disk store => (batches.map BlockFormats.arrayMemorySize).sum +
    OrderedMap.total (fun _ (entry : DiskEntry) => entry.bytes) (store.blocks.erase ticket) ≤ store.capacity

omit [BlockFormats F] in
theorem uploadBudget_pos (accounted : storage.Accounted) (stored : storage.Stores ticket block) :
    0 < storage.uploadBudget ticket := by
  cases storage with
  | memory store =>
    have found : store.blocks[ticket]? = some block := stored
    have positive := Quota.Accounted.positive accounted ticket block found
    simp only [uploadBudget, MemoryBlockStore.uploadBudget, found, Option.elim_some]
    omega
  | disk store =>
    obtain ⟨entry, found, _⟩ := stored
    have positive := Quota.Accounted.positive accounted ticket entry found
    simp only [uploadBudget, DiskBlockStore.uploadBudget, found, Option.elim_some]
    omega

theorem fits_budget_iff (accounted : storage.Accounted) (stored : storage.Stores ticket block)
    (charged : block.chargedBytes = max (block.batches.map BlockFormats.arrayMemorySize).sum 1) :
    (block.batches.map BlockFormats.arrayMemorySize).sum ≤ storage.uploadBudget ticket ↔
      storage.HasRoom ticket block.batches := by
  cases storage with
  | memory store =>
    have found : store.blocks[ticket]? = some block := stored
    simp only [uploadBudget, MemoryBlockStore.uploadBudget, found, Option.elim_some, HasRoom, iff_true]
    omega
  | disk store =>
    obtain ⟨entry, found, _⟩ := stored
    have share := Quota.Accounted.share accounted found
    simp only [uploadBudget, DiskBlockStore.uploadBudget, found, Option.elim_some, HasRoom,
      DiskBlockStore.availableBytes]
    omega

end BlockStorage

namespace DataPlane

variable {storage : BlockStorage F} {ticket : String} {schema : Schema} {batches : List (RecordBatch F)}

theorem receive_ok {availableBytes decodedBytes : Nat} {received : List (RecordBatch F)} :
    receive availableBytes decodedBytes (batches.map .ok) = .ok received ↔
      received = batches ∧ (batches ≠ [] →
        max (decodedBytes + (batches.map BlockFormats.arrayMemorySize).sum) 1 ≤ availableBytes) := by
  induction batches generalizing decodedBytes received with
  | nil => simp [receive, eq_comm]
  | cons batch rest ih =>
    have step : receive availableBytes decodedBytes ((batch :: rest).map .ok) = .ok received ↔
        ¬availableBytes < max (decodedBytes + BlockFormats.arrayMemorySize batch) 1 ∧
        ∃ later, receive availableBytes (decodedBytes + BlockFormats.arrayMemorySize batch)
          (rest.map .ok) = .ok later ∧ batch :: later = received := by
      simp only [List.map_cons, receive, Except.mapError, bind_ok, Except.ok.injEq,
        exists_eq_left', rejectIf_eq_ok, pure_eq_ok, exists_const]
    rw [step, List.map_cons, List.sum_cons]
    simp only [ih]
    constructor
    · rintro ⟨room, later, ⟨rfl, fits⟩, rfl⟩
      refine ⟨rfl, fun _ => ?_⟩
      cases later with
      | nil =>
        rw [List.map_nil, List.sum_nil]
        omega
      | cons =>
        have fits := fits (List.cons_ne_nil _ _)
        omega
    · rintro ⟨rfl, fits⟩
      have fits := fits (List.cons_ne_nil _ _)
      exact ⟨by omega, rest, ⟨rfl, fun _ => by omega⟩, rfl⟩

def recheck (storage : BlockStorage F) (stored : String) (ticket : String) (schema : Schema)
    (batches : List (RecordBatch F)) : Except Status UploadAck := do
  rejectIf (storage.uploadBudget ticket = 0)
    (Status.mk .resourceExhausted "data-plane storage has no available capacity")
  let batches ← receive (storage.uploadBudget ticket) 0 (batches.map .ok)
  let (rows, bytes, checksum) ← (blockMetadata schema batches).mapError mapStatus
  (DiskBlockStore.sameChecksum stored checksum).mapError mapStatus
  return { rows, bytes, checksum, ticket }

theorem ticket_of {found : String} :
    (UploadStream.of ticket schema batches).ticket = .ok found ↔
      ticket = found ∧ ∃ decoded, decodeTicket F ticket = .ok decoded := by
  change ((decodeTicket F ticket).mapError mapStatus >>= fun _ => pure ticket) = .ok found ↔ _
  simp only [bind_ok, Except.mapError_eq_ok, pure_eq_ok, exists_and_left, and_comm]

variable {meanwhile : List (Faults × Access F)}

theorem doPut_of {decoded : BlockTicket} {faults : Faults} (known : decodeTicket F ticket = .ok decoded) :
    (doPut faults meanwhile (some (.of ticket schema batches))).run storage =
      (storeStream faults ticket (storage.uploadBudget ticket) (.of ticket schema batches)).run
        ((BlockStorage.accesses F).exec meanwhile storage) := by
  have named : (UploadStream.of ticket schema batches).ticket = .ok ticket :=
    ticket_of.mpr ⟨rfl, decoded, known⟩
  change ((liftM (UploadStream.of ticket schema batches).ticket >>= _ :
    Stateful Status (BlockStorage F) UploadAck)).run storage = _
  rw [named]
  rfl

theorem doPut_accepted {decoded : BlockTicket} {faults : Faults} {rows bytes : Nat} {checksum : String}
    {next : BlockStorage F} (known : decodeTicket F ticket = .ok decoded)
    (budget : 0 < storage.uploadBudget ticket)
    (fits : (batches.map BlockFormats.arrayMemorySize).sum ≤ storage.uploadBudget ticket)
    (described : blockMetadata schema batches = .ok (rows, bytes, checksum))
    (inserted : (BlockStorage.insert faults ticket
      { schema, batches, checksum, chargedBytes := max bytes 1 }).run
        ((BlockStorage.accesses F).exec meanwhile storage) = (.ok (), next)) :
    (doPut faults meanwhile (some (.of ticket schema batches))).run storage =
      (.ok { rows, bytes, checksum, ticket }, next) := by
  have pass {α β : Type} {check : Except Status α} {value : α} (passed : check = .ok value)
      (rest : α → Stateful Status (BlockStorage F) β) (s : BlockStorage F) :
      (liftM check >>= rest).run s = (rest value).run s :=
    Stateful.run_bind_ok (congrArg (·, s) passed) rest
  have streamed : receive (storage.uploadBudget ticket) 0
      (UploadStream.of ticket schema batches).batches = .ok batches :=
    receive_ok.mpr ⟨rfl, fun _ => by omega⟩
  have shaped : required (UploadStream.of ticket schema batches).schema
      "block upload requires an Arrow schema" = .ok schema := rfl
  have stored : (access (BlockStorage.insert faults ticket
      { schema, batches, checksum, chargedBytes := max bytes 1 })).run
      ((BlockStorage.accesses F).exec meanwhile storage) = (.ok (), next) := by
    change (Except.mapError _ (Prod.fst _), Prod.snd _) = _
    rw [inserted]
    rfl
  rw [doPut_of known, storeStream, pass (rejectIf_ok.mpr (by omega)), pass streamed,
    pass shaped, pass (Except.mapError_eq_ok.mpr described),
    Stateful.run_bind_ok stored]
  rfl

theorem access_stored {block : StoredBlock F} (stored : storage.Stores ticket block) (faults : Faults)
    (other : StoredBlock F) :
    (access (BlockStorage.insert faults ticket other)).run storage =
      ((DiskBlockStore.sameChecksum block.checksum other.checksum).mapError mapStatus, storage) := by
  change (Except.mapError _ (Prod.fst _), Prod.snd _) = _
  rw [BlockStorage.insert_stored stored faults other]
  cases DiskBlockStore.sameChecksum block.checksum other.checksum <;> rfl

theorem doPut_stored {block : StoredBlock F} {decoded : BlockTicket} {faults : Faults}
    {meanwhile : List (Faults × Access F)} (known : decodeTicket F ticket = .ok decoded)
    (stored : ((BlockStorage.accesses F).exec meanwhile storage).Stores ticket block) :
    (doPut faults meanwhile (some (.of ticket schema batches))).run storage =
      (recheck storage block.checksum ticket schema batches,
        (BlockStorage.accesses F).exec meanwhile storage) := by
  rw [doPut_of known]
  apply Stateful.run_bind_check rfl
  intro _ _
  apply Stateful.run_bind_check rfl
  intro received _
  refine (Stateful.run_bind_ok (a := schema) rfl _).trans ?_
  apply Stateful.run_bind_check rfl
  rintro ⟨rows, bytes, checksum⟩ _
  -- The insertion itself is only the comparison of the checksums.
  exact Stateful.run_bind_check (access_stored stored faults _) fun _ _ => rfl

theorem recheck_ok {stored : String} {ack : UploadAck} (budget : 0 < storage.uploadBudget ticket) :
    recheck storage stored ticket schema batches = .ok ack ↔
      (batches.map BlockFormats.arrayMemorySize).sum ≤ storage.uploadBudget ticket ∧
      ∃ rows bytes checksum, blockMetadata schema batches = .ok (rows, bytes, checksum) ∧
        stored = checksum ∧ { rows, bytes, checksum, ticket } = ack := by
  have room : (batches ≠ [] → max (0 + (batches.map BlockFormats.arrayMemorySize).sum) 1 ≤
      storage.uploadBudget ticket) ↔
      (batches.map BlockFormats.arrayMemorySize).sum ≤ storage.uploadBudget ticket := by
    cases batches with
    | nil => simp
    | cons batch rest =>
      simp only [ne_eq, List.cons_ne_nil, not_false_eq_true, forall_const]
      omega
  simp only [recheck, bind_ok, rejectIf_eq_ok, receive_ok, room, Except.mapError_eq_ok,
    DiskBlockStore.sameChecksum, pure_eq_ok, Prod.exists, exists_const, ne_eq, not_not]
  constructor
  · rintro ⟨_, _, ⟨rfl, fits⟩, found⟩
    exact ⟨fits, found⟩
  · rintro ⟨fits, found⟩
    exact ⟨by omega, batches, ⟨rfl, fits⟩, found⟩

def Acknowledges (ack : UploadAck) (ticket : String) (schema : Schema)
    (batches : List (RecordBatch F)) : Prop :=
  (∃ decoded, decodeTicket F ticket = .ok decoded) ∧
    blockMetadata schema batches = .ok (ack.rows, ack.bytes, ack.checksum) ∧ ack.ticket = ticket

theorem doPut_acknowledges (faults : Faults) (meanwhile : List (Faults × Access F)) :
    (doPut faults meanwhile (some (.of ticket schema batches))).Yields storage
      fun result _ => ∀ ack, result = .ok ack → Acknowledges ack ticket schema batches := by
  apply Stateful.Yields.lift
  next => exact fun _ _ => nofun
  next =>
  rintro _ ⟨⟩
  apply Stateful.Yields.lift
  next => exact fun _ _ => nofun
  next =>
  intro found named
  obtain ⟨rfl, known⟩ := ticket_of.mp named
  apply Stateful.Yields.get
  apply Stateful.Yields.modify
  apply Stateful.Yields.lift
  next => exact fun _ _ => nofun
  next =>
  intro _ _
  apply Stateful.Yields.lift
  next => exact fun _ _ => nofun
  next =>
  intro received streamed
  obtain ⟨rfl, _⟩ := receive_ok.mp streamed
  apply Stateful.Yields.lift
  next => exact fun _ _ => nofun
  next =>
  rintro _ ⟨⟩
  apply Stateful.Yields.lift
  next => exact fun _ _ => nofun
  next =>
  rintro ⟨rows, bytes, checksum⟩ described
  apply Stateful.Yields.bind
  next => exact fun _ _ _ => nofun
  next =>
  rintro _ _ _ ack ⟨⟩
  exact ⟨known, Except.mapError_eq_ok.mp described, rfl⟩

theorem doPut_repeated {block : StoredBlock F} {ack : UploadAck} (accounted : storage.Accounted)
    (stored : storage.Stores ticket block) (uploaded : uploadedBlock block.schema block.batches = .ok block)
    (first : Acknowledges ack ticket block.schema block.batches)
    (spared : ∀ request ∈ meanwhile, request.2 ≠ .remove ticket) (again : Faults) :
    (doPut again meanwhile (some (.of ticket block.schema block.batches))).run storage =
        (.ok ack, (BlockStorage.accesses F).exec meanwhile storage) ↔
      (block.batches.map BlockFormats.arrayMemorySize).sum ≤ storage.uploadBudget ticket := by
  obtain ⟨⟨decoded, known⟩, described, rfl⟩ := first
  obtain ⟨rows, bytes, checksum, measured, same⟩ := uploadedBlock_ok.mp uploaded
  have later := BlockStorage.exec_stores accounted spared stored
  have checked : block.checksum = ack.checksum := by
    cases described.symm.trans measured
    rw [same]
  rw [doPut_stored known later, Prod.mk.injEq, and_iff_left rfl,
    recheck_ok (BlockStorage.uploadBudget_pos accounted stored)]
  exact and_iff_left ⟨ack.rows, ack.bytes, ack.checksum, described, checked, rfl⟩

theorem doPut_again_iff {block : StoredBlock F} {ack : UploadAck} {start : BlockStorage F}
    {faults : Faults} {before meanwhile : List (Faults × Access F)} (reachable : storage.Reachable)
    (stored : storage.Stores ticket block)
    (uploaded : uploadedBlock block.schema block.batches = .ok block)
    (first : ((doPut faults before (some (.of ticket block.schema block.batches))).run start).1 = .ok ack)
    (spared : ∀ request ∈ meanwhile, request.2 ≠ .remove ticket) (again : Faults) :
    ((doPut again meanwhile (some (.of ticket block.schema block.batches))).run storage =
        (.ok ack, (BlockStorage.accesses F).exec meanwhile storage) ↔
      storage.HasRoom ticket block.batches) ∧
    ∀ (schema : Schema) (batches : List (RecordBatch F)) (rows bytes : Nat) (checksum : String),
      blockMetadata schema batches = .ok (rows, bytes, checksum) → checksum ≠ block.checksum →
      ∃ status, (doPut again meanwhile (some (.of ticket schema batches))).run storage =
        (.error status, (BlockStorage.accesses F).exec meanwhile storage) := by
  have accounted := reachable.accounted
  have acknowledged := doPut_acknowledges faults before ack first
  constructor
  · rw [doPut_repeated accounted stored uploaded acknowledged spared again]
    apply BlockStorage.fits_budget_iff accounted stored
    obtain ⟨_, _, _, measured, same⟩ := uploadedBlock_ok.mp uploaded
    rw [(blockMetadata_ok.mp measured).2.1, same]
  · intro schema batches rows bytes checksum described different
    obtain ⟨⟨decoded, known⟩, _⟩ := acknowledged
    have later := BlockStorage.exec_stores accounted spared stored
    rw [doPut_stored known later]
    cases result : recheck storage block.checksum ticket schema batches with
    | error status => exact ⟨status, rfl⟩
    | ok found =>
      obtain ⟨_, _, _, _, measured, same, _⟩ :=
        (recheck_ok (BlockStorage.uploadBudget_pos accounted stored)).mp result
      cases described.symm.trans measured
      exact absurd same.symm different

def otherTicket : String :=
  "\x7b\"version\":5,\"worker_id\":\"w\",\"producer\":\x7b\"query_id\":\"q\",\"stage_id\":0,\"partition_id\":0,\"attempt\":0\x7d,\"output_partition\":1\x7d"

def wideStream (batches : List (RecordBatch Unit)) : List UInt8 :=
  List.replicate (batches.map (·.schema.fields.length)).sum 0 ++ endOfStream

instance wideFormats : BlockFormats Unit where
  parseTicket text := .ok
    { sampleBlockTicket with outputPartition := if text = sampleTicket then 0 else 1 }
  parseHeader _ := .error "expected value"
  writeStream _ batches := .ok (wideStream batches)
  readStream _ := .error (.arrow "unsupported")
  arrayMemorySize batch := 7008 * batch.schema.fields.length

def wideSchema : Schema := { fields := List.replicate 12 ⟨"c", .int64, true, .empty⟩ }

def wideBatch : RecordBatch Unit :=
  { schema := wideSchema
    rows := List.replicate 64 (List.replicate 12 (.int64 ⟨0, by decide, by decide⟩))
    typed := fun _ member => List.eq_of_mem_replicate member ▸ by decide }

def wideBlock (batches : List (RecordBatch Unit)) : StoredBlock Unit where
  schema := wideSchema
  batches := batches
  checksum := s!"crc32:{Text.hexPadded 8 (Octets.crc32 (wideStream batches))}"
  chargedBytes := max (batches.map BlockFormats.arrayMemorySize).sum 1

theorem uploadedBlock_wide (batches : List (RecordBatch Unit)) :
    uploadedBlock wideSchema batches = .ok (wideBlock batches) := rfl

def wideFile (ticket : String) (batches : List (RecordBatch Unit)) : List UInt8 :=
  DiskBlockStore.fileContent ticket (wideBlock batches) (wideStream batches)

def withWide (store : DiskBlockStore) (ticket : String) (batches : List (RecordBatch Unit)) :
    DiskBlockStore :=
  store.withBlock ticket (wideFile ticket batches) (wideBlock batches).checksum

section

variable {store : DiskBlockStore} {ticket : String} {batches : List (RecordBatch Unit)}
  (fresh : store.blocks[ticket]? = none)
  (unused : store.files[DiskBlockStore.blockPath ticket]? = none)
  (free : store.files[DiskBlockStore.pendingPath ticket]? = none)
  (fits : (wideFile ticket batches).length ≤ store.availableBytes)

include fresh unused free fits

theorem insert_wide : (BlockStorage.insert {} ticket (wideBlock batches)).run (.disk store) =
    (.ok (), .disk (withWide store ticket batches)) := by
  have able : DiskBlockStore.Publishable {} ticket (wideBlock batches) (wideStream batches) store :=
    ⟨rfl, free, rfl, fits, rfl, rfl, rfl, rfl⟩
  change (DiskBlockStore.insert {} ticket (wideBlock batches)).within BlockStorage.disk store = _
  rw [Stateful.within, DiskBlockStore.insert_run rfl fresh unused able]
  rfl

theorem next_wide :
    (BlockStorage.accesses Unit).next ({}, .insert ticket wideSchema batches) (.disk store) =
      .disk (withWide store ticket batches) := by
  change ((BlockStorage.access {} (.insert ticket wideSchema batches)).run (.disk store)).2 = _
  unfold BlockStorage.access
  rw [run_check (uploadedBlock_wide batches),
    Stateful.run_bind_ok (insert_wide fresh unused free fits)]
  rfl

end

def smallStore : DiskBlockStore := { files := ∅, capacity := 84106, used := 0, blocks := ∅ }

def loneStore : DiskBlockStore := withWide smallStore sampleTicket [wideBatch]

def crowdedStore : DiskBlockStore := withWide loneStore otherTicket []

theorem ticket_chars : ∃ sample other : List Char,
    sampleTicket = .ofList sample ∧ otherTicket = .ofList other ∧
    sample = sample.take 118 ++ ['0', '\x7d'] ∧ other = sample.take 118 ++ ['1', '\x7d'] ∧
    (Octets.ofChars (sample.flatMap escapeChar)).length ≤ 200 ∧
    100 < (Octets.ofChars (other.flatMap escapeChar)).length ∧
    (Octets.ofChars (other.flatMap escapeChar)).length ≤ 200 := by
  refine ⟨_, _, rfl, rfl, ?_, ?_, ?_⟩
  · decide
  · decide
  · decide +kernel

theorem length_wideFile :
    (wideFile sampleTicket [wideBatch]).length ≤ 300 ∧
    100 < (wideFile otherTicket []).length ∧ (wideFile otherTicket []).length ≤ 300 := by
  obtain ⟨sample, other, one, two, _, _, first, longer, second⟩ := ticket_chars
  have header (ticket : List Char) (batches : List (RecordBatch Unit)) :
      (wideFile (.ofList ticket) batches).length = (wideStream batches).length +
        (Octets.ofChars (ticket.flatMap escapeChar)).length +
        (Octets.ofChars ((wideBlock batches).checksum.toList.flatMap escapeChar)).length + 43 := by
    rw [wideFile, DiskBlockStore.length_fileContent]
    simp only [Header.toJson, Header.new, jsonText, Octets.ofChars, String.toList_ofList,
      List.flatMap_append, List.flatMap_cons, List.cons_append, List.length_append]
    have start : ("\x7b\"version\":".toList.flatMap String.utf8EncodeChar).length = 11 := rfl
    have version : (protocolVersion.val.repr.toList.flatMap String.utf8EncodeChar).length = 1 := rfl
    have named : (",\"ticket\":".toList.flatMap String.utf8EncodeChar).length = 10 := rfl
    have summed : (",\"checksum\":".toList.flatMap String.utf8EncodeChar).length = 12 := rfl
    have ending : ("\x7d".toList.flatMap String.utf8EncodeChar).length = 1 := rfl
    have quotation : (String.utf8EncodeChar '"').length = 1 := rfl
    rw [start, version, named, summed, ending, quotation, List.flatMap_nil, List.length_nil]
    omega
  have sums : (Octets.ofChars ((wideBlock [wideBatch]).checksum.toList.flatMap escapeChar)).length ≤ 20 ∧
      (Octets.ofChars ((wideBlock []).checksum.toList.flatMap escapeChar)).length ≤ 20 := by
    decide +kernel
  have streams : (wideStream [wideBatch]).length = 20 ∧ (wideStream []).length = 8 := by decide
  rw [one, two, header, header]
  omega

theorem blockPath_other :
    DiskBlockStore.blockPath sampleTicket ≠ DiskBlockStore.blockPath otherTicket := by
  intro same
  have named (ticket : String) : (DiskBlockStore.blockPath ticket).toList =
      "sparkx-".toList ++ (Text.hexPadded 8 (Octets.crc32 (Octets.ofText ticket))).toList ++
        ".block".toList := by
    simp only [DiskBlockStore.blockPath, DiskBlockStore.blockName, Text.toString_text,
      String.toList_append]
  have sums := congrArg String.toList same
  rw [named, named, List.append_left_inj, List.append_right_inj] at sums
  have equal := Text.hexPadded_injective 8 (String.toList_inj.mp sums)
  obtain ⟨sample, other, one, two, first, second, _⟩ := ticket_chars
  have octets (before : List Char) (digit : Char) : Octets.ofChars (before ++ [digit, '\x7d']) =
      Octets.ofChars before ++ (String.utf8EncodeChar digit ++ [125]) := by
    simp only [Octets.ofChars, List.flatMap_append, List.flatMap_cons, List.flatMap_nil]
    rfl
  rw [one, two, Octets.ofText, Octets.ofText, String.toList_ofList, String.toList_ofList, first,
    second, octets, octets] at equal
  exact Octets.crc32_ne (by decide) _ _ equal

theorem otherTicket_ne : otherTicket ≠ sampleTicket :=
  fun same => blockPath_other (congrArg DiskBlockStore.blockPath same.symm)

-- The small store with files of a few hundred octets, whatever they hold.

section

variable {sample other : List UInt8} {first second : String}

theorem first_fits (short : sample.length ≤ 300) : sample.length ≤ smallStore.availableBytes := by
  simp only [DiskBlockStore.availableBytes, smallStore]
  omega

theorem second_fits (short : sample.length ≤ 300) (brief : other.length ≤ 300) :
    other.length ≤ (smallStore.withBlock sampleTicket sample first).availableBytes := by
  simp only [DiskBlockStore.availableBytes, DiskBlockStore.capacity_withBlock,
    DiskBlockStore.used_withBlock, smallStore]
  omega

theorem first_indexed : (smallStore.withBlock sampleTicket sample first).blocks[sampleTicket]? =
    some { path := DiskBlockStore.blockPath sampleTicket, bytes := sample.length, checksum := first } := by
  rw [DiskBlockStore.blocks_withBlock, OrderedMap.getElem?_insert, if_pos rfl]

theorem still_indexed :
    ((smallStore.withBlock sampleTicket sample first).withBlock otherTicket other second).blocks[sampleTicket]? =
    some { path := DiskBlockStore.blockPath sampleTicket, bytes := sample.length, checksum := first } := by
  rw [DiskBlockStore.blocks_withBlock, OrderedMap.getElem?_insert, if_neg otherTicket_ne, first_indexed]

theorem budget_short (short : sample.length ≤ 300) (tight : 100 < other.length)
    (brief : other.length ≤ 300) :
    BlockStorage.uploadBudget (F := Unit) (.disk ((smallStore.withBlock sampleTicket sample first).withBlock
      otherTicket other second)) sampleTicket < 84096 := by
  simp only [BlockStorage.uploadBudget, DiskBlockStore.uploadBudget, still_indexed, Option.elim_some]
  simp only [DiskBlockStore.availableBytes, DiskBlockStore.capacity_withBlock,
    DiskBlockStore.used_withBlock, smallStore]
  omega

theorem first_hasRoom (short : sample.length ≤ 300)
    (accounted : BlockStorage.Accounted (F := Unit)
      (.disk (smallStore.withBlock sampleTicket sample first))) :
    BlockStorage.HasRoom (.disk (smallStore.withBlock sampleTicket sample first)) sampleTicket
      [wideBatch] := by
  have share := Quota.Accounted.share accounted first_indexed
  have buffers : ([wideBatch].map BlockFormats.arrayMemorySize).sum = 84096 := rfl
  simp only [BlockStorage.HasRoom, buffers, DiskBlockStore.capacity_withBlock,
    DiskBlockStore.used_withBlock, smallStore] at share ⊢
  omega

end

theorem lone_reached : (BlockStorage.accesses Unit).exec
    [({}, .insert sampleTicket wideSchema [wideBatch])] (.disk smallStore) = .disk loneStore :=
  next_wide TreeMap.getElem?_emptyc TreeMap.getElem?_emptyc TreeMap.getElem?_emptyc
    (first_fits length_wideFile.1)

theorem crowded_reached : (BlockStorage.accesses Unit).exec
    [({}, .insert otherTicket wideSchema [])] (.disk loneStore) = .disk crowdedStore := by
  have committed := isBlockFile_blockPath sampleTicket
  apply next_wide
  · rw [loneStore, withWide, DiskBlockStore.blocks_withBlock, OrderedMap.getElem?_insert,
      if_neg otherTicket_ne.symm]
    exact TreeMap.getElem?_emptyc
  · rw [loneStore, withWide, DiskBlockStore.files_withBlock, if_neg blockPath_other]
    split
    next => rfl
    next => exact TreeMap.getElem?_emptyc
  · rw [loneStore, withWide, DiskBlockStore.files_withBlock,
      if_neg (ne_pendingPath committed otherTicket).symm]
    split
    next => rfl
    next => exact TreeMap.getElem?_emptyc
  · rw [loneStore, withWide]
    exact second_fits length_wideFile.1 length_wideFile.2.2

theorem lone_stores : BlockStorage.Stores (.disk loneStore) sampleTicket (wideBlock [wideBatch]) := by
  rw [loneStore, withWide]
  exact ⟨_, first_indexed, rfl⟩

theorem crowded_stores :
    BlockStorage.Stores (.disk crowdedStore) sampleTicket (wideBlock [wideBatch]) := by
  rw [crowdedStore, loneStore, withWide, withWide]
  exact ⟨_, still_indexed, rfl⟩

theorem crowded_budget :
    BlockStorage.uploadBudget (.disk crowdedStore : BlockStorage Unit) sampleTicket < 84096 := by
  rw [crowdedStore, loneStore, withWide, withWide]
  exact budget_short length_wideFile.1 length_wideFile.2.1 length_wideFile.2.2

theorem decodeTicket_wide : decodeTicket Unit sampleTicket = .ok sampleBlockTicket := by
  have parsed : BlockFormats.parseTicket Unit sampleTicket = .ok sampleBlockTicket := by
    simp only [BlockFormats.parseTicket, if_pos]
    rfl
  rw [decodeTicket, parsed]
  rfl

def wide : StoredBlock Unit := wideBlock [wideBatch]

theorem wide_accepted : ∃ ack,
    (doPut {} [] (some (.of sampleTicket wide.schema wide.batches))).run (.disk smallStore) =
      (.ok ack, .disk loneStore) := by
  have budget : BlockStorage.uploadBudget (.disk smallStore : BlockStorage Unit) sampleTicket = 84106 := by
    change 84106 + (∅ : TreeMap String DiskEntry)[sampleTicket]?.elim 0 (·.bytes) = 84106
    rw [TreeMap.getElem?_emptyc]
    rfl
  have inserted := insert_wide TreeMap.getElem?_emptyc TreeMap.getElem?_emptyc
    TreeMap.getElem?_emptyc (first_fits length_wideFile.1)
  refine ⟨_, doPut_accepted decodeTicket_wide (by omega) ?_ rfl inserted⟩
  rw [budget]
  decide

theorem doPut_again_of_wide : ∃ ack,
    (doPut {} [] (some (.of sampleTicket wide.schema wide.batches))).run (.disk loneStore) =
      (.ok ack, .disk loneStore) := by
  obtain ⟨ack, first⟩ := wide_accepted
  have reachable : BlockStorage.Reachable (.disk loneStore : BlockStorage Unit) :=
    ⟨some (∅, []), 84106, .disk smallStore, rfl, _, lone_reached⟩
  have room : BlockStorage.HasRoom (.disk loneStore) sampleTicket wide.batches :=
    first_hasRoom length_wideFile.1 reachable.accounted
  have spared : ∀ request ∈ ([] : List (Faults × Access Unit)), request.2 ≠ .remove sampleTicket := by
    simp
  have again := doPut_again_iff reachable lone_stores (uploadedBlock_wide [wideBatch])
    (congrArg Prod.fst first) spared {}
  exact ⟨ack, again.1.mpr room⟩

theorem repeat_is_refused :
    BlockStorage.Reachable (.disk crowdedStore : BlockStorage Unit) ∧
    BlockStorage.Stores (.disk crowdedStore) sampleTicket wide ∧
    (∃ ack, (doPut {} [] (some (.of sampleTicket wide.schema wide.batches))).run
      (.disk smallStore) = (.ok ack, .disk loneStore)) ∧
    ∃ status, (doPut {} [] (some (.of sampleTicket wide.schema wide.batches))).run
      (.disk crowdedStore) = (.error status, .disk crowdedStore) := by
  have reachable : BlockStorage.Reachable (.disk crowdedStore : BlockStorage Unit) :=
    ⟨some (∅, []), 84106, .disk smallStore, rfl, .trans ⟨_, lone_reached⟩ ⟨_, crowded_reached⟩⟩
  refine ⟨reachable, crowded_stores, wide_accepted, ?_⟩
  rw [@doPut_stored _ _ _ _ _ _ _ _ _ [] decodeTicket_wide crowded_stores]
  cases result : recheck (.disk crowdedStore) (wideBlock [wideBatch]).checksum sampleTicket wide.schema
    wide.batches with
  | error status => exact ⟨status, rfl⟩
  | ok ack =>
    have budget := BlockStorage.uploadBudget_pos reachable.accounted crowded_stores
    have fits : [84096].sum ≤ _ := ((recheck_ok budget).mp result).1
    exact absurd crowded_budget (Nat.not_lt.mpr fits)

end DataPlane

end SparkX
