import SparkX.Cluster.BlockStore.Outcomes
import SparkX.Shared.Binary64

set_option autoImplicit false

namespace SparkX

open Std

variable {F : Type}

namespace DiskBlockStore

-- Every indexed ticket has its file, every published file its one ticket, and `used` is the size of
-- them all.
structure Consistent (store : DiskBlockStore) : Prop where
  committed : ∀ (ticket : String) (entry : DiskEntry), store.blocks[ticket]? = some entry →
    isBlockFile entry.path = true ∧
    ∃ content : List UInt8, store.files[entry.path]? = some content ∧ content.length = entry.bytes
  owned : ∀ (name : String) (content : List UInt8), isBlockFile name = true →
    store.files[name]? = some content →
    ∃! ticket : String, ∃ entry : DiskEntry, store.blocks[ticket]? = some entry ∧ entry.path = name
  used : store.used = OrderedMap.total (fun _ entry => entry.bytes) store.blocks
  bounded : store.used ≤ store.capacity

variable {before after : DiskBlockStore} {entry : DiskEntry} {ticket : String} {block : StoredBlock F}
  {stream : List UInt8}

section

theorem Consistent.same (consistent : Consistent before) (same : SameCommitted before after) :
    Consistent after where
  committed ticket entry indexed := by
    rw [same.blocks] at indexed
    obtain ⟨block, present⟩ := consistent.committed ticket entry indexed
    rw [same.files entry.path block]
    exact ⟨block, present⟩
  owned name content block present := by
    rw [same.files name block] at present
    rw [same.blocks]
    exact consistent.owned name content block present
  used := by
    rw [same.used, same.blocks]
    exact consistent.used
  bounded := by
    rw [same.used, same.capacity]
    exact consistent.bounded

theorem Consistent.path_inj {store : DiskBlockStore} (consistent : Consistent store) {first second : String}
    {other : DiskEntry} (one : store.blocks[first]? = some entry) (two : store.blocks[second]? = some other)
    (same : entry.path = other.path) : first = second := by
  obtain ⟨block, content, present, _⟩ := consistent.committed first entry one
  exact (consistent.owned entry.path content block present).unique ⟨entry, one, rfl⟩
    ⟨other, two, same.symm⟩

variable [BlockFormats F]

theorem Consistent.addBlock (consistent : Consistent before)
    (published : Published ticket block stream before after) (fresh : before.blocks[ticket]? = none)
    (unused : before.files[blockPath ticket]? = none) :
    Consistent (after.addBlock ticket
      { path := blockPath ticket, bytes := (fileContent ticket block stream).length,
        checksum := block.checksum }) where
  committed other entry indexed := by
    simp only [DiskBlockStore.addBlock, published.blocks, OrderedMap.getElem?_insert] at indexed ⊢
    split at indexed
    next =>
      cases indexed
      have committed := isBlockFile_blockPath ticket
      exact ⟨committed, _, by rw [published.files _ committed, if_pos rfl], rfl⟩
    next =>
      obtain ⟨committed, content, present, size⟩ := consistent.committed other entry indexed
      have elsewhere : blockPath ticket ≠ entry.path := by
        intro here
        rw [here, present] at unused
        cases unused
      rw [published.files _ committed, if_neg elsewhere]
      exact ⟨committed, content, present, size⟩
  owned name content committed present := by
    simp only [DiskBlockStore.addBlock, published.blocks, OrderedMap.getElem?_insert] at present ⊢
    rw [published.files name committed] at present
    split at present
    next here =>
      refine ⟨ticket, ⟨_, if_pos rfl, here⟩, ?_⟩
      rintro other ⟨entry, indexed, path⟩
      split at indexed
      next same => exact same.symm
      next =>
        -- An older ticket with this path would have had its file here already.
        obtain ⟨_, _, there, _⟩ := consistent.committed other entry indexed
        rw [path, ← here, unused] at there
        cases there
    next elsewhere =>
      obtain ⟨owner, ⟨entry, indexed, path⟩, unique⟩ := consistent.owned name content committed present
      have known : ticket ≠ owner := by
        rintro rfl
        rw [fresh] at indexed
        cases indexed
      refine ⟨owner, ⟨entry, by rw [if_neg known, indexed], path⟩, ?_⟩
      rintro other ⟨found, indexed, path⟩
      split at indexed
      next =>
        cases indexed
        exact absurd path elsewhere
      next => exact unique other ⟨found, indexed, path⟩
  used := by
    have total := OrderedMap.total_insert (fun _ (entry : DiskEntry) => entry.bytes) before.blocks
      ticket { path := blockPath ticket, bytes := (fileContent ticket block stream).length,
               checksum := block.checksum }
    rw [fresh, Option.map_none, Option.getD_none, Nat.add_zero] at total
    simp only [DiskBlockStore.addBlock, published.used, published.blocks, total, consistent.used]
  bounded := by
    have fits := published.fits
    have bounded := consistent.bounded
    simp only [DiskBlockStore.addBlock, published.used, published.capacity]
    unfold availableBytes at fits
    omega

theorem Consistent.erase {ticket : String} {entry : DiskEntry} {store : DiskBlockStore}
    (consistent : Consistent store) (indexed : store.blocks[ticket]? = some entry) :
    Consistent { store.removeFile entry.path with
      blocks := store.blocks.erase ticket, used := store.used - entry.bytes } where
  committed other found remaining := by
    simp only [removeFile, OrderedMap.getElem?_erase] at remaining ⊢
    split at remaining
    next => cases remaining
    next different =>
      obtain ⟨committed, content, present, size⟩ := consistent.committed other found remaining
      have elsewhere : entry.path ≠ found.path :=
        fun same => different (consistent.path_inj indexed remaining same)
      rw [if_neg elsewhere]
      exact ⟨committed, content, present, size⟩
  owned name content committed present := by
    simp only [removeFile, OrderedMap.getElem?_erase] at present ⊢
    split at present
    next => cases present
    next elsewhere =>
      obtain ⟨owner, ⟨found, owned, path⟩, unique⟩ := consistent.owned name content committed present
      have different : ticket ≠ owner := by
        rintro rfl
        cases indexed.symm.trans owned
        exact elsewhere path
      refine ⟨owner, ⟨found, by rw [if_neg different, owned], path⟩, ?_⟩
      rintro other ⟨later, remaining, path⟩
      split at remaining
      next => cases remaining
      next => exact unique other ⟨later, remaining, path⟩
  used := by
    have total := OrderedMap.total_erase (fun _ (entry : DiskEntry) => entry.bytes) indexed
    have used := consistent.used
    dsimp only
    omega
  bounded := Nat.le_trans (Nat.sub_le _ _) consistent.bounded

theorem Consistent.covered {store : DiskBlockStore} (consistent : Consistent store)
    (indexed : store.blocks[ticket]? = some entry) : entry.bytes ≤ store.used := by
  rw [consistent.used]
  exact OrderedMap.weight_le_total (fun _ (entry : DiskEntry) => entry.bytes) indexed

end

section

variable [BlockFormats F]

theorem Published.inconsistent (published : Published ticket block stream before after)
    (unused : before.files[blockPath ticket]? = none) (consistent : Consistent before) :
    ¬Consistent after := by
  intro settled
  have committed := isBlockFile_blockPath ticket
  obtain ⟨owner, ⟨entry, indexed, path⟩, _⟩ := settled.owned (blockPath ticket) _ committed
    (by rw [published.files _ committed, if_pos rfl])
  rw [published.blocks] at indexed
  obtain ⟨_, content, present, _⟩ := consistent.committed owner entry indexed
  rw [path, unused] at present
  exact nomatch present

theorem inconsistent_removeFile {store : DiskBlockStore} (indexed : store.blocks[ticket]? = some entry) :
    ¬Consistent (store.removeFile entry.path) := by
  intro settled
  obtain ⟨_, content, present, _⟩ := settled.committed ticket entry indexed
  rw [removeFile, OrderedMap.getElem?_erase, if_pos rfl] at present
  cases present

def LosesSync (faults : Faults) (before : DiskBlockStore) : Call F → Prop
  | .insert ticket block => faults.syncDirectory ≠ none ∧ before.blocks[ticket]? = none ∧
    before.files[blockPath ticket]? = none ∧ ∃ stream, Publishable faults ticket block stream before
  | .get _ => False
  | .remove ticket => faults.syncDirectory ≠ none ∧
    ∃ entry, before.blocks[ticket]? = some entry ∧ Unlinkable faults entry before

-- A call keeps the store consistent, and one that fails leaves it as it was.
def Preserves (before : DiskBlockStore) {α : Type} (result : Except Fault α)
    (after : DiskBlockStore) : Prop :=
  Consistent after ∧ ∀ fault, result = .error fault → SameCommitted before after

theorem insert_preserves {faults : Faults} (consistent : Consistent before) :
    (insert faults ticket block).Yields before fun result after =>
      before.Preserves result after ↔ ¬LosesSync faults before (.insert ticket block) := by
  apply (insert_outcome faults ticket block before).mono
  intro result after outcome
  cases outcome with
  | conflict error indexed =>
    have kept : ¬LosesSync faults before (.insert ticket block) :=
      fun ⟨_, fresh, _⟩ => nomatch fresh.symm.trans indexed
    exact iff_of_true ⟨consistent, fun _ _ => .refl before⟩ kept
  | collision error _ taken =>
    have kept : ¬LosesSync faults before (.insert ticket block) :=
      fun ⟨_, _, unused, _⟩ => nomatch unused.symm.trans taken
    exact iff_of_true ⟨consistent, fun _ _ => .refl before⟩ kept
  | refused fault blocked same =>
    have kept : ¬LosesSync faults before (.insert ticket block) :=
      fun ⟨_, _, _, stream, able⟩ => blocked stream able
    exact iff_of_true ⟨consistent.same same, fun _ _ => same⟩ kept
  | repeated indexed =>
    have kept : ¬LosesSync faults before (.insert ticket block) :=
      fun ⟨_, fresh, _⟩ => nomatch fresh.symm.trans indexed
    exact iff_of_true ⟨consistent, nofun⟩ kept
  | unsynced message lost fresh unused able published =>
    refine iff_of_false (fun kept => published.inconsistent unused consistent kept.1) ?_
    exact not_not.mpr ⟨by simp [lost], fresh, unused, _, able⟩
  | published synced fresh unused published =>
    have kept : ¬LosesSync faults before (.insert ticket block) := fun ⟨lost, _⟩ => lost synced
    exact iff_of_true ⟨consistent.addBlock published fresh unused, nofun⟩ kept

theorem remove_preserves {faults : Faults} (consistent : Consistent before) :
    (remove faults ticket).Yields before fun result after =>
      before.Preserves result after ↔ ¬LosesSync faults before (.remove ticket : Call F) := by
  apply (remove_outcome faults ticket before).mono
  intro result after outcome
  cases outcome with
  | refused error blocked =>
    have kept : ¬LosesSync faults before (.remove ticket : Call F) :=
      fun ⟨_, entry, indexed, able⟩ => blocked entry indexed able
    exact iff_of_true ⟨consistent, fun _ _ => .refl before⟩ kept
  | unsynced message lost indexed able =>
    refine iff_of_false (fun kept => inconsistent_removeFile indexed kept.1) ?_
    exact not_not.mpr ⟨by simp [lost], _, indexed, able⟩
  | short indexed short => exact absurd short (Nat.not_lt.mpr (consistent.covered indexed))
  | removed synced indexed =>
    have kept : ¬LosesSync faults before (.remove ticket : Call F) := fun ⟨lost, _⟩ => lost synced
    exact iff_of_true ⟨consistent.erase indexed, nofun⟩ kept

theorem call_preserves {faults : Faults} {request : Call F} {before : DiskBlockStore}
    (consistent : Consistent before) :
    (call faults request).Yields before fun result after =>
      before.Preserves result after ↔ ¬LosesSync faults before request := by
  have failed {α β : Type} (fault : Fault) (after : DiskBlockStore) :
      before.Preserves (.error fault : Except Fault α) after ↔
        before.Preserves (.error fault : Except Fault β) after := by
    simp only [Preserves, Except.error.injEq]
  have passed {α β : Type} (first : α) (second : β) (after : DiskBlockStore) :
      before.Preserves (.ok first : Except Fault α) after ↔
        before.Preserves (.ok second : Except Fault β) after := by
    simp only [Preserves, reduceCtorEq, false_implies, implies_true]
  cases request with
  | insert ticket block =>
    apply (insert_preserves consistent).seq
    · exact fun fault after known => (failed fault after).trans known
    · exact fun _ after known => (passed _ _ after).trans known
  | get ticket =>
    apply Stateful.Yields.get
    apply yields_check
    · exact fun _ _ => iff_of_true ⟨consistent, fun _ _ => .refl before⟩ not_false
    · exact fun _ _ => iff_of_true ⟨consistent, nofun⟩ not_false
  | remove ticket =>
    apply (remove_preserves (F := F) consistent).seq
    · exact fun fault after known => (failed fault after).trans known
    · exact fun _ after known => (passed _ _ after).trans known

structure Scanned (F : Type) [BlockFormats F] (files : TreeMap String (List UInt8)) (capacity : Nat)
    (seen : List (String × List UInt8)) (store : DiskBlockStore) : Prop where
  capacity : store.capacity = capacity
  files : ∀ name, isBlockFile name = true → store.files[name]? = files[name]?
  indexed : ∀ (ticket : String) (entry : DiskEntry), store.blocks[ticket]? = some entry →
    isBlockFile entry.path = true ∧ ∃ content header block, (entry.path, content) ∈ seen ∧
      content.length = entry.bytes ∧ readBlock F content = .ok (header, block) ∧
      header.ticket = ticket ∧ header.checksum = entry.checksum
  listed : ∀ file ∈ seen, isBlockFile file.1 = true →
    ∃ (ticket : String) (entry : DiskEntry), store.blocks[ticket]? = some entry ∧ entry.path = file.1
  used : store.used = OrderedMap.total (fun _ entry => entry.bytes) store.blocks
  bounded : store.used ≤ store.capacity

def Readable (F : Type) [BlockFormats F] (store : DiskBlockStore) : Prop :=
  ∀ (ticket : String) (entry : DiskEntry), store.blocks[ticket]? = some entry →
    ∃ content header block, store.files[entry.path]? = some content ∧
      readBlock F content = .ok (header, block) ∧ header.ticket = ticket ∧
      header.checksum = entry.checksum

theorem openEntry_other {name : String} (uncommitted : isBlockFile name = false)
    (content : List UInt8) (store : DiskBlockStore) :
    ∃ next, openEntry F store (name, content) = .ok next ∧ SameCommitted store next := by
  dsimp only [openEntry]
  split
  next => exact ⟨store, rfl, .refl store⟩
  next named =>
    split
    next pending => exact ⟨_, rfl, store.sameCommitted_removeFile uncommitted⟩
    next settled =>
      split
      next => exact ⟨store, rfl, .refl store⟩
      next suffix => simp_all [isBlockFile]

theorem openEntry_block {name : String} (committed : isBlockFile name = true)
    (content : List UInt8) (store next : DiskBlockStore) :
    openEntry F store (name, content) = .ok next ↔
      content.length ≤ store.availableBytes ∧
      ∃ header block, readBlock F content = .ok (header, block) ∧
        store.blocks[header.ticket]? = none ∧
        next = store.addBlock header.ticket
          { path := name, bytes := content.length, checksum := header.checksum } := by
  simp only [isBlockFile, Bool.and_eq_true, Bool.not_eq_true'] at committed
  dsimp only [openEntry]
  rw [committed.1.1, committed.1.2, committed.2]
  simp only [Bool.not_true, Bool.false_eq_true, if_false, bind_ok, rejectIf_eq_ok,
    getElem?_eq_none, pure_eq_ok, Prod.exists, exists_const, Nat.not_lt, eq_comm (a := next)]

variable {files : TreeMap String (List UInt8)} {capacity : Nat} {store : DiskBlockStore}

theorem Scanned.step {seen : List (String × List UInt8)} {file : String × List UInt8}
    {next : DiskBlockStore} (scanned : Scanned F files capacity seen store)
    (opened : openEntry F store file = .ok next) : Scanned F files capacity (seen ++ [file]) next := by
  obtain ⟨name, content⟩ := file
  cases taken : isBlockFile name with
  | false =>
    obtain ⟨found, skipped, same⟩ := openEntry_other (F := F) taken content store
    cases opened.symm.trans skipped
    constructor
    case capacity => rw [same.capacity, scanned.capacity]
    case files => exact fun name block => (same.files name block).trans (scanned.files name block)
    case indexed =>
      intro ticket entry indexed
      rw [same.blocks] at indexed
      obtain ⟨committed, content, header, block, member, known⟩ := scanned.indexed ticket entry indexed
      exact ⟨committed, content, header, block, List.mem_append_left _ member, known⟩
    case listed =>
      intro file member committed
      rw [same.blocks]
      rcases List.mem_append.mp member with before | here
      · exact scanned.listed file before committed
      · cases List.mem_singleton.mp here
        exact absurd committed (by simp [taken])
    case used => rw [same.used, same.blocks, scanned.used]
    case bounded =>
      rw [same.used, same.capacity]
      exact scanned.bounded
  | true =>
    obtain ⟨room, header, block, read, fresh, rfl⟩ := (openEntry_block taken content store next).mp opened
    have bounded := scanned.bounded
    unfold availableBytes at room
    constructor
    case capacity => exact scanned.capacity
    case files => exact scanned.files
    case indexed =>
      intro ticket entry indexed
      rw [addBlock, OrderedMap.getElem?_insert] at indexed
      split at indexed
      next same =>
        cases indexed
        exact ⟨taken, content, header, block, by simp, rfl, read, same, rfl⟩
      next =>
        obtain ⟨committed, content, header, block, member, known⟩ := scanned.indexed ticket entry indexed
        exact ⟨committed, content, header, block, List.mem_append_left _ member, known⟩
    case listed =>
      intro file member committed
      simp only [addBlock, OrderedMap.getElem?_insert]
      rcases List.mem_append.mp member with before | here
      · obtain ⟨ticket, entry, indexed, path⟩ := scanned.listed file before committed
        have other : header.ticket ≠ ticket := by
          rintro rfl
          cases fresh.symm.trans indexed
        exact ⟨ticket, entry, by rw [if_neg other, indexed], path⟩
      · cases List.mem_singleton.mp here
        exact ⟨header.ticket, _, if_pos rfl, rfl⟩
    case used =>
      have total := OrderedMap.total_insert (fun _ (entry : DiskEntry) => entry.bytes) store.blocks
        header.ticket { path := name, bytes := content.length, checksum := header.checksum }
      rw [fresh, Option.map_none, Option.getD_none, Nat.add_zero] at total
      simp only [addBlock, total, scanned.used]
    case bounded =>
      simp only [addBlock]
      omega

variable {listing : List (String × List UInt8)}

theorem scanned_open (opened : DiskBlockStore.open F files listing capacity = .ok store) :
    Scanned F files capacity listing store := by
  obtain ⟨_, opened⟩ := check_ok.mp opened
  apply foldlM_induct (Scanned F files capacity) _ _ opened
  · exact fun seen file store next scanned opened => scanned.step opened
  · constructor
    case capacity => rfl
    case files => exact fun _ _ => rfl
    case indexed => simp
    case listed => simp
    case used => rfl
    case bounded => exact Nat.zero_le _

theorem Scanned.consistent (scanned : Scanned F files capacity listing store)
    (listed : listing.Perm files.toList) : Consistent store ∧ Readable F store := by
  have present {name : String} {content : List UInt8} (committed : isBlockFile name = true) :
      (name, content) ∈ listing ↔ store.files[name]? = some content := by
    rw [listed.mem_iff, OrderedMap.mem_toList, scanned.files name committed]
  refine ⟨⟨?_, ?_, scanned.used, scanned.bounded⟩, ?_⟩
  · intro ticket entry indexed
    obtain ⟨committed, content, _, _, member, size, _⟩ := scanned.indexed ticket entry indexed
    exact ⟨committed, content, (present committed).mp member, size⟩
  · intro name content committed there
    obtain ⟨ticket, entry, indexed, path⟩ :=
      scanned.listed (name, content) ((present committed).mpr there) committed
    refine ⟨ticket, ⟨entry, indexed, path⟩, ?_⟩
    -- The ticket of a file is the one in its header.
    have owner (found : String) (other : DiskEntry) (indexed : store.blocks[found]? = some other)
        (path : other.path = name) :
        ∃ header block, readBlock F content = .ok (header, block) ∧ header.ticket = found := by
      obtain ⟨committed, held, header, block, member, _, read, named, _⟩ :=
        scanned.indexed found other indexed
      have same := (present committed).mp member
      rw [path, there] at same
      cases same
      exact ⟨header, block, read, named⟩
    rintro found ⟨other, indexed', path'⟩
    obtain ⟨header, block, read, rfl⟩ := owner ticket entry indexed path
    obtain ⟨header', block', read', rfl⟩ := owner found other indexed' path'
    cases read.symm.trans read'
    rfl
  · intro ticket entry indexed
    obtain ⟨committed, content, header, block, member, _, read, named, checksum⟩ :=
      scanned.indexed ticket entry indexed
    exact ⟨content, header, block, (present committed).mp member, read, named, checksum⟩

end

section

variable [BlockFormats F]

theorem exec_consistent {store : DiskBlockStore} (consistent : Consistent store)
    {calls : List (Faults × Call F)}
    (synced : ∀ before request after, calls = before ++ request :: after →
      ¬LosesSync request.1 ((service F).exec before store) request.2) :
    Consistent ((service F).exec calls store) := by
  induction calls generalizing store with
  | nil => exact consistent
  | cons request rest ih =>
    have here := (call_preserves consistent).mpr (synced [] request rest rfl)
    apply ih here.1
    rintro before later after rfl
    exact synced (request :: before) later after rfl

theorem consistent_through_faults {files : TreeMap String (List UInt8)}
    {listing : List (String × List UInt8)} {capacity : Nat} {store : DiskBlockStore}
    (listed : listing.Perm files.toList)
    (opened : DiskBlockStore.open F files listing capacity = .ok store)
    (calls : List (Faults × Call F)) :
    ((∀ before after, calls = before ++ after → Consistent ((service F).exec before store)) ∧
      ∀ before request after, calls = before ++ request :: after →
        ∀ fault, (service F).output request ((service F).exec before store) = .error fault →
          SameCommitted ((service F).exec before store)
            ((service F).next request ((service F).exec before store))) ↔
    ∀ before request after, calls = before ++ request :: after →
      ¬LosesSync request.1 ((service F).exec before store) request.2 := by
  have start := ((scanned_open opened).consistent listed).1
  constructor
  · rintro ⟨consistent, unchanged⟩ before request after rfl
    have now := consistent before (request :: after) rfl
    have next := consistent (before ++ [request]) after (by simp)
    rw [Machine.exec_append] at next
    exact (call_preserves now).mp ⟨next, unchanged before request after rfl⟩
  · intro synced
    have reached (before after : List (Faults × Call F)) (split : calls = before ++ after) :
        Consistent ((service F).exec before store) := by
      apply exec_consistent start
      rintro early request late rfl
      exact synced early request (late ++ after) (by simp [split])
    refine ⟨reached, ?_⟩
    intro before request after split
    exact ((call_preserves (reached before _ split)).mpr (synced before request after split)).2

end

end DiskBlockStore

def sampleTicket : String :=
  "\x7b\"version\":5,\"worker_id\":\"w\",\"producer\":\x7b\"query_id\":\"q\",\"stage_id\":0,\"partition_id\":0,\"attempt\":0\x7d,\"output_partition\":0\x7d"

def indented (count : Nat) (ticket : String) : String :=
  String.ofList (List.replicate count ' ' ++ ticket.toList)

def paddedTicket : String := indented 4097 sampleTicket

def sampleBlockTicket : BlockTicket where
  version := protocolVersion
  workerId := ⟨"w"⟩
  producer := { queryId := ⟨"q"⟩, stageId := 0, partitionId := 0, attempt := 0 }
  outputPartition := 0

def endOfStream : List UInt8 := [255, 255, 255, 255, 0, 0, 0, 0]

def sampleBatch : RecordBatch Binary64 :=
  { schema := { fields := [⟨"n", .uint64, true, .empty⟩] }, rows := [[.uint64 7]], typed := by decide }

def sampleStream : List UInt8 := [7, 0, 0, 0, 0, 0, 0, 0] ++ endOfStream

def sampleBlock : StoredBlock Binary64 where
  schema := sampleBatch.schema
  batches := [sampleBatch]
  checksum := s!"crc32:{Text.hexPadded 8 (Octets.crc32 sampleStream)}"
  chargedBytes := 8

instance sampleFormats : BlockFormats Binary64 where
  parseTicket text :=
    if text.toList.dropWhile (· ∈ [' ', '\n', '\t', '\r']) = sampleTicket.toList then
      .ok sampleBlockTicket
    else .error "expected value"
  parseHeader octets :=
    if octets = (Header.new sampleTicket sampleBlock).toJson then
      .ok (Header.new sampleTicket sampleBlock)
    else if octets = (Header.new paddedTicket sampleBlock).toJson then
      .ok (Header.new paddedTicket sampleBlock)
    else .error "expected value"
  writeStream _ batches :=
    if batches.map (·.rows) = [sampleBatch.rows] then .ok sampleStream else .error (.arrow "unsupported")
  readStream octets :=
    if octets = sampleStream then .ok (sampleBatch.schema, [sampleBatch]) else .error (.arrow "unsupported")
  arrayMemorySize batch := 8 * batch.numRows

def emptyStore : DiskBlockStore := { files := ∅, capacity := 8192, used := 0, blocks := ∅ }

theorem open_emptyStore : DiskBlockStore.open Binary64 ∅ [] 8192 = .ok emptyStore := rfl

def interrupted : Faults × DiskBlockStore.Call Binary64 :=
  ({ write := some "No space left on device (os error 28)", written := [0, 0] },
    .insert sampleTicket sampleBlock)

def unsynced : Faults × DiskBlockStore.Call Binary64 :=
  ({ syncDirectory := some "Input/output error (os error 5)" }, .insert sampleTicket sampleBlock)

theorem length_sample : (Header.new sampleTicket sampleBlock).toJson.length ≤ 2048 := by
  decide +kernel

theorem DiskBlockStore.consistent_through_faults_of_interrupted :
    DiskBlockStore.Consistent ((DiskBlockStore.service Binary64).exec [interrupted] emptyStore) := by
  have synced (before : List (Faults × DiskBlockStore.Call Binary64)) (request)
      (after : List (Faults × DiskBlockStore.Call Binary64))
      (split : [interrupted] = before ++ request :: after) :
      ¬DiskBlockStore.LosesSync request.1 ((DiskBlockStore.service Binary64).exec before emptyStore)
        request.2 := by
    obtain ⟨rfl, same⟩ | ⟨rest, _, same⟩ := List.append_eq_cons_iff.mp split.symm
    · cases same
      exact fun ⟨lost, _⟩ => lost rfl
    · simp at same
  exact ((DiskBlockStore.consistent_through_faults (.refl _) open_emptyStore [interrupted]).mpr
    synced).1 [interrupted] [] rfl

theorem DiskBlockStore.published_without_ticket :
    DiskBlockStore.open Binary64 ∅ [] 8192 = .ok emptyStore ∧
    ¬(DiskBlockStore.Consistent ((DiskBlockStore.service Binary64).exec [unsynced] emptyStore) ∧
      ∀ fault, (DiskBlockStore.service Binary64).output unsynced emptyStore = .error fault →
        emptyStore.SameCommitted ((DiskBlockStore.service Binary64).next unsynced emptyStore)) := by
  refine ⟨open_emptyStore, fun preserved => ?_⟩
  have start := ((DiskBlockStore.scanned_open open_emptyStore).consistent (.refl _)).1
  have able : DiskBlockStore.Publishable unsynced.1 sampleTicket sampleBlock sampleStream emptyStore := by
    have fits : (DiskBlockStore.fileContent sampleTicket sampleBlock sampleStream).length ≤
        emptyStore.availableBytes := by
      have short := length_sample
      have room : emptyStore.availableBytes = 8192 := rfl
      have ending : sampleStream.length = 16 := rfl
      rw [DiskBlockStore.length_fileContent]
      omega
    exact ⟨rfl, TreeMap.getElem?_emptyc, if_pos rfl, fits, rfl, rfl, rfl, rfl⟩
  have lost : DiskBlockStore.LosesSync unsynced.1 emptyStore unsynced.2 :=
    ⟨nofun, TreeMap.getElem?_emptyc, TreeMap.getElem?_emptyc, sampleStream, able⟩
  exact (@DiskBlockStore.call_preserves Binary64 _ unsynced.1 unsynced.2 emptyStore start).mp
    preserved lost

end SparkX
