import SparkX.Cluster.BlockStore.Consistent

set_option autoImplicit false

namespace SparkX

open Std

variable {F : Type} [BlockFormats F]

variable {content : List UInt8}

section

-- What is assumed of `serde_json` and of the Arrow stream format for one block.
structure RoundTrips (ticket : String) (block : StoredBlock F) : Prop where
  header : BlockFormats.parseHeader F (Header.new ticket block).toJson = .ok (Header.new ticket block)
  -- The length of a header is stored in 32 bits; a header of 4 GiB is cut when it is read.
  truncated : 2 ^ 32 ≤ (Header.new ticket block).toJson.length → ∀ length ≤ 4096, ∃ message,
    BlockFormats.parseHeader F ((Header.new ticket block).toJson.take length) = .error message
  stream : ∀ octets, BlockFormats.writeStream block.schema block.batches = .ok octets →
    BlockFormats.readStream octets = .ok (block.schema, block.batches)

theorem readExact_append (first rest : List UInt8) :
    readExact first.length (first ++ rest) = .ok (first, rest) := by
  have enough : rejectIf ((first ++ rest).length < first.length)
      (SparkXError.io "failed to fill whole buffer") = .ok () := by
    rw [rejectIf_ok, List.length_append]
    omega
  simp only [readExact, enough, bind, Except.bind, List.take_left, List.drop_left]
  rfl

theorem readBlock_checksum {header : Header} {block : StoredBlock F}
    (read : readBlock F content = .ok (header, block)) : header.checksum = block.checksum := by
  unfold readBlock at read
  obtain ⟨_, _, read⟩ := bind_ok.mp read
  obtain ⟨_, read⟩ := check_ok.mp read
  obtain ⟨_, _, read⟩ := bind_ok.mp read
  obtain ⟨_, _, read⟩ := bind_ok.mp read
  obtain ⟨_, read⟩ := check_ok.mp read
  obtain ⟨_, _, read⟩ := bind_ok.mp read
  obtain ⟨_, _, read⟩ := bind_ok.mp read
  obtain ⟨same, read⟩ := check_ok.mp read
  cases read
  exact not_not.mp (rejectIf_ok.mp same)

variable {ticket : String} {block : StoredBlock F} {stream : List UInt8}

theorem readBlock_fileContent (trips : RoundTrips ticket block)
    (uploaded : uploadedBlock block.schema block.batches = .ok block)
    (written : BlockFormats.writeStream block.schema block.batches = .ok stream)
    (short : (Header.new ticket block).toJson.length ≤ 4096) :
    readBlock F (DiskBlockStore.fileContent ticket block stream) =
      .ok (Header.new ticket block, block) := by
  obtain ⟨⟨rows, bytes, checksum⟩, metadata, same⟩ := bind_ok.mp uploaded
  have same := pure_eq_ok.mp same
  have limit : rejectIf (4096 < (Header.new ticket block).toJson.length)
      (SparkXError.protocol "invalid persisted block header length") = .ok () :=
    rejectIf_ok.mpr (Nat.not_lt.mpr short)
  have size : Octets.toLength (Octets.ofLength (Header.new ticket block).toJson.length) =
      (Header.new ticket block).toJson.length := by
    rw [Octets.toLength_ofLength]
    omega
  have checked : block.checksum = checksum := by rw [← same]
  have lead := readExact_append (Octets.ofLength (Header.new ticket block).toJson.length)
    ((Header.new ticket block).toJson ++ stream)
  rw [Octets.length_ofLength] at lead
  simp only [readBlock, DiskBlockStore.fileContent, lead, size, limit, readExact_append,
    trips.header, trips.stream _ written, metadata, bind, Except.bind, Except.mapError]
  have version : rejectIf ((Header.new ticket block).version ≠ protocolVersion)
      (SparkXError.protocol "persisted block version mismatch") = .ok () :=
    rejectIf_ok.mpr (not_not.mpr rfl)
  have sum : DiskBlockStore.sameChecksum (Header.new ticket block).checksum checksum = .ok () :=
    rejectIf_ok.mpr (not_not.mpr checked)
  simp only [version, sum]
  rw [← same]
  rfl

theorem readBlock_long (trips : RoundTrips ticket block)
    (long : 4096 < (Header.new ticket block).toJson.length) (result : Header × StoredBlock F) :
    readBlock F (DiskBlockStore.fileContent ticket block stream) ≠ .ok result := by
  intro read
  have lead := readExact_append (Octets.ofLength (Header.new ticket block).toJson.length)
    ((Header.new ticket block).toJson ++ stream)
  rw [Octets.length_ofLength] at lead
  simp only [readBlock, DiskBlockStore.fileContent, lead] at read
  obtain ⟨limit, read⟩ := check_ok.mp read
  obtain ⟨⟨octets, rest⟩, split, read⟩ := bind_ok.mp read
  obtain ⟨header, parsed, _⟩ := bind_ok.mp read
  have limit := Nat.le_of_not_lt (rejectIf_ok.mp limit)
  have shorter := Nat.lt_of_le_of_lt limit long
  have huge : 2 ^ 32 ≤ (Header.new ticket block).toJson.length := by
    rw [Octets.toLength_ofLength] at limit
    omega
  obtain ⟨_, split⟩ := check_ok.mp split
  cases split
  obtain ⟨message, failed⟩ := trips.truncated huge _ limit
  rw [List.take_append_of_le_length (Nat.le_of_lt shorter), failed] at parsed
  cases parsed

end

namespace DiskBlockStore

theorem get_ok {store : DiskBlockStore} {ticket : String} {found : StoredBlock F} :
    store.get F {} ticket = .ok found ↔ ∃ entry content header,
      store.blocks[ticket]? = some entry ∧ store.files[entry.path]? = some content ∧
      readBlock F content = .ok (header, found) ∧ header.ticket = ticket ∧
      entry.checksum = found.checksum := by
  constructor
  · intro got
    obtain ⟨entry, indexed, got⟩ := bind_ok.mp got
    obtain ⟨⟨header, block⟩, read, got⟩ := bind_ok.mp got
    obtain ⟨named, got⟩ := check_ok.mp got
    obtain ⟨same, got⟩ := check_ok.mp got
    cases got
    obtain ⟨content, present, read⟩ := bind_ok.mp (check_ok.mp read).2
    exact ⟨entry, content, header, okOr_ok.mp indexed, okOr_ok.mp present, read,
      not_not.mp (rejectIf_ok.mp named), not_not.mp (rejectIf_ok.mp same)⟩
  · rintro ⟨entry, content, header, indexed, present, read, rfl, same⟩
    have file : store.readFile F {} entry.path = .ok (header, found) :=
      check_ok.mpr ⟨rfl, bind_ok.mpr ⟨content, okOr_ok.mpr present, read⟩⟩
    refine bind_ok.mpr ⟨entry, okOr_ok.mpr indexed, bind_ok.mpr ⟨_, file, ?_⟩⟩
    refine check_ok.mpr ⟨rejectIf_ok.mpr (not_not.mpr rfl), ?_⟩
    exact check_ok.mpr ⟨rejectIf_ok.mpr (not_not.mpr same), rfl⟩

structure Recoverable (F : Type) [BlockFormats F] (store : DiskBlockStore) : Prop where
  usable : store.capacity ≠ 0
  consistent : Consistent store
  readable : Readable F store

structure Recovered (store : DiskBlockStore) (seen : List (String × List UInt8))
    (now : DiskBlockStore) : Prop where
  capacity : now.capacity = store.capacity
  used : now.used = OrderedMap.total (fun _ entry => entry.bytes) now.blocks
  indexed : ∀ (ticket : String) (entry : DiskEntry), now.blocks[ticket]? = some entry ↔
    store.blocks[ticket]? = some entry ∧ entry.path ∈ seen.map (·.1)

theorem Recovered.step {store now : DiskBlockStore} {seen : List (String × List UInt8)} {name : String}
    (recoverable : Recoverable F store) (recovered : Recovered store seen now) (fresh : name ∉ seen.map (·.1))
    (present : store.files[name]? = some content) :
    ∃ next, openEntry F now (name, content) = .ok next ∧
      Recovered store (seen ++ [(name, content)]) next := by
  cases committed : isBlockFile name with
  | false =>
    obtain ⟨next, opened, same⟩ := openEntry_other (F := F) committed content now
    refine ⟨next, opened, ?_⟩
    constructor
    case capacity => rw [same.capacity, recovered.capacity]
    case used => rw [same.used, same.blocks, recovered.used]
    case indexed =>
      intro ticket entry
      rw [same.blocks, recovered.indexed, List.map_append, List.mem_append]
      refine and_congr_right fun indexed => (or_iff_left ?_).symm
      intro here
      rw [List.map_singleton, List.mem_singleton] at here
      have block := (recoverable.consistent.committed ticket entry indexed).1
      rw [here, committed] at block
      exact nomatch block
  | true =>
    -- The file belongs to one indexed ticket, which has not been met yet.
    obtain ⟨ticket, ⟨entry, indexed, path⟩, _⟩ :=
      recoverable.consistent.owned name content committed present
    subst path
    obtain ⟨found, header, block, there, read, named, checksum⟩ :=
      recoverable.readable ticket entry indexed
    cases present.symm.trans there
    obtain ⟨_, found, there, size⟩ := recoverable.consistent.committed ticket entry indexed
    cases present.symm.trans there
    have unmet : now.blocks[ticket]? = none := by
      cases met : now.blocks[ticket]? with
      | none => rfl
      | some other =>
        obtain ⟨same, path⟩ := (recovered.indexed ticket other).mp met
        cases indexed.symm.trans same
        exact absurd path fresh
    have entries (other : String) (value : DiskEntry) :
        (now.blocks.insert ticket entry)[other]? = some value ↔
          store.blocks[other]? = some value ∧
            value.path ∈ (seen ++ [(entry.path, content)]).map (·.1) := by
      rw [OrderedMap.getElem?_insert, List.map_append, List.mem_append, List.map_singleton,
        List.mem_singleton]
      split
      next here =>
        subst here
        rw [indexed]
        refine ⟨fun same => ?_, fun same => same.1⟩
        cases same
        exact ⟨rfl, .inr rfl⟩
      next different =>
        rw [recovered.indexed]
        refine and_congr_right fun stored => (or_iff_left fun same => different ?_).symm
        exact recoverable.consistent.path_inj indexed stored same.symm
    have total := OrderedMap.total_insert (fun _ (entry : DiskEntry) => entry.bytes) now.blocks
      ticket entry
    rw [unmet, Option.map_none, Option.getD_none, Nat.add_zero, ← recovered.used] at total
    have room : content.length ≤ now.availableBytes := by
      have part := OrderedMap.total_le (fun _ (entry : DiskEntry) => entry.bytes)
        fun other value stored => ((entries other value).mp stored).1
      rw [← recoverable.consistent.used] at part
      have bounded := recoverable.consistent.bounded
      rw [availableBytes, recovered.capacity]
      omega
    have same : ({ path := entry.path, bytes := content.length, checksum := header.checksum } :
        DiskEntry) = entry := by
      rw [size, checksum]
    refine ⟨now.addBlock ticket entry, ?_, ?_⟩
    · rw [openEntry_block committed]
      exact ⟨room, header, block, read, named ▸ unmet, by rw [named, same]⟩
    · exact ⟨recovered.capacity, total.symm, entries⟩

def Restarts (F : Type) [BlockFormats F] (store : DiskBlockStore) : Prop :=
  ∀ listing : List (String × List UInt8), listing.Perm store.files.toList →
    ∃ reopened, DiskBlockStore.open F store.files listing store.capacity = .ok reopened ∧
      (∀ ticket : String, reopened.blocks[ticket]? = store.blocks[ticket]?) ∧
      reopened.used = store.used

theorem Recoverable.restarts {store : DiskBlockStore} (recoverable : Recoverable F store) :
    Restarts F store := by
  intro listing listed
  have names : (listing.map (·.1)).Nodup := by
    rw [(listed.map (·.1)).nodup_iff, TreeMap.map_fst_toList_eq_keys]
    exact TreeMap.nodup_keys
  have start : Recovered store [] ⟨store.files, store.capacity, 0, ∅⟩ := by
    constructor
    case capacity => rfl
    case used => rfl
    case indexed => simp
  have advances (seen : List (String × List UInt8)) (file : String × List UInt8)
      (rest : List (String × List UInt8)) (now : DiskBlockStore)
      (split : listing = seen ++ file :: rest) (recovered : Recovered store seen now) :
      ∃ next, openEntry F now file = .ok next ∧ Recovered store (seen ++ [file]) next := by
    subst split
    apply recovered.step recoverable
    · rw [List.map_append, List.map_cons] at names
      exact fun member => (List.nodup_middle.mp names).notMem (List.mem_append_left _ member)
    · rw [← OrderedMap.mem_toList, ← listed.mem_iff]
      exact List.mem_append_right _ List.mem_cons_self
  obtain ⟨reopened, opened, recovered⟩ := Except.foldlM_total (Recovered store) start advances
  have lookups (ticket : String) : reopened.blocks[ticket]? = store.blocks[ticket]? := by
    apply Option.ext
    intro entry
    rw [recovered.indexed]
    refine and_iff_left_of_imp fun indexed => ?_
    obtain ⟨_, content, present, _⟩ := recoverable.consistent.committed ticket entry indexed
    rw [← OrderedMap.mem_toList, ← listed.mem_iff] at present
    exact List.mem_map.mpr ⟨_, present, rfl⟩
  refine ⟨reopened, check_ok.mpr ⟨rejectIf_ok.mpr recoverable.usable, opened⟩, lookups, ?_⟩
  rw [recovered.used, recoverable.consistent.used]
  exact OrderedMap.total_congr _ lookups

section

inductive Change (store : DiskBlockStore) : Call F → DiskBlockStore → Prop where
  | unchanged {request : Call F} {next : DiskBlockStore} (same : SameCommitted store next) :
    Change store request next
  | published {ticket : String} {block : StoredBlock F} {stream : List UInt8} {next : DiskBlockStore}
    (fresh : store.blocks[ticket]? = none) (unused : store.files[blockPath ticket]? = none)
    (published : Published ticket block stream store next) :
    Change store (.insert ticket block) (next.addBlock ticket
      { path := blockPath ticket, bytes := (fileContent ticket block stream).length,
        checksum := block.checksum })
  | removed {ticket : String} {entry : DiskEntry} (indexed : store.blocks[ticket]? = some entry) :
    Change store (.remove ticket) { store.removeFile entry.path with
      blocks := store.blocks.erase ticket, used := store.used - entry.bytes }

theorem insert_change (store : DiskBlockStore) (ticket : String) (block : StoredBlock F) :
    (insert {} ticket block).Yields store fun _ next => Change store (.insert ticket block) next := by
  apply (insert_outcome {} ticket block store).mono
  intro result next outcome
  cases outcome with
  | conflict | collision | repeated => exact .unchanged (.refl store)
  | refused fault blocked same => exact .unchanged same
  | unsynced message lost => exact nomatch lost
  | published synced fresh unused published => exact .published fresh unused published

variable {store : DiskBlockStore}

theorem remove_change (consistent : Consistent store) (ticket : String) :
    (remove {} ticket).Yields store fun _ next => Change store (.remove ticket : Call F) next := by
  apply (remove_outcome {} ticket store).mono
  intro result next outcome
  cases outcome with
  | refused => exact .unchanged (.refl store)
  | unsynced message lost => exact nomatch lost
  | short indexed short => exact absurd short (Nat.not_lt.mpr (consistent.covered indexed))
  | removed synced indexed => exact .removed indexed

def after (store : DiskBlockStore) (request : Call F) : DiskBlockStore :=
  (service F).next ({}, request) store

theorem change_after (consistent : Consistent store) (request : Call F) :
    Change store request (store.after request) := by
  have changed : (call {} request).Yields store fun _ next => Change store request next := by
    cases request with
    | insert ticket block =>
      exact (insert_change store ticket block).seq (fun _ _ changed => changed)
        fun _ _ changed => changed
    | get ticket =>
      apply Stateful.Yields.get
      apply yields_check
      · exact fun _ _ => .unchanged (.refl store)
      · exact fun _ _ => .unchanged (.refl store)
    | remove ticket =>
      exact (remove_change consistent ticket).seq (fun _ _ changed => changed)
        fun _ _ changed => changed
  exact changed

-- A block as `do_put` builds it, in formats that round-trip.
structure Genuine (ticket : String) (block : StoredBlock F) : Prop where
  trips : RoundTrips ticket block
  uploaded : uploadedBlock block.schema block.batches = .ok block

-- A new block has a header that `read_block` accepts; a block that is there already is the one that
-- is stored.
def Legible (store : DiskBlockStore) (ticket : String) (block : StoredBlock F) : Prop :=
  match store.blocks[ticket]? with
  | none => (Header.new ticket block).toJson.length ≤ 4096
  | some entry => ∃ content header stored, store.files[entry.path]? = some content ∧
    readBlock F content = .ok (header, stored) ∧ stored.schema = block.schema ∧
    stored.batches = block.batches

variable {ticket : String}

theorem legible_fresh {block : StoredBlock F} (fresh : store.blocks[ticket]? = none) :
    Legible store ticket block ↔ (Header.new ticket block).toJson.length ≤ 4096 := by
  rw [Legible, fresh]

-- An insert that the store refuses adds nothing, whatever it is.
def Admissible (store : DiskBlockStore) : Call F → Prop
  | .insert ticket block =>
    (store.after (.insert ticket block)).blocks[ticket]? ≠ store.blocks[ticket]? →
      Genuine ticket block ∧ Legible store ticket block
  | .get _ | .remove _ => True

theorem blocks_addBlock (store : DiskBlockStore) (ticket : String) (entry : DiskEntry) :
    (store.addBlock ticket entry).blocks[ticket]? = some entry := by
  rw [addBlock, OrderedMap.getElem?_insert, if_pos rfl]

variable {request : Call F}

theorem Recoverable.step (recoverable : Recoverable F store) (admissible : Admissible store request) :
    Recoverable F (store.after request) := by
  have consistent := recoverable.consistent
  have settled : Consistent (store.after request) := by
    have kept : ¬LosesSync {} store request := by
      cases request with
      | insert | remove => exact fun lost => lost.1 rfl
      | get => exact not_false
    exact ((call_preserves consistent).mpr kept).1
  have changed := change_after consistent request
  generalize reached : store.after request = next at settled changed
  cases changed with
  | unchanged same =>
    refine ⟨by rw [same.capacity]; exact recoverable.usable, settled, ?_⟩
    intro ticket entry indexed
    rw [same.blocks] at indexed
    rw [same.files _ (consistent.committed ticket entry indexed).1]
    exact recoverable.readable ticket entry indexed
  | published fresh unused published =>
    rename_i ticket block stream next
    obtain ⟨genuine, legible⟩ := admissible (by simp [reached, fresh, blocks_addBlock])
    refine ⟨published.capacity.trans_ne recoverable.usable, settled, ?_⟩
    intro other entry indexed
    simp only [addBlock, published.blocks, OrderedMap.getElem?_insert] at indexed ⊢
    split at indexed
    next here =>
      cases indexed
      have legible := (legible_fresh fresh).mp legible
      have read := readBlock_fileContent genuine.trips genuine.uploaded published.written legible
      exact ⟨_, _, block, by rw [published.files _ (isBlockFile_blockPath ticket), if_pos rfl], read,
        here, rfl⟩
    next =>
      obtain ⟨committed, content, present, _⟩ := consistent.committed other entry indexed
      have elsewhere : blockPath ticket ≠ entry.path := by
        intro here
        rw [here, present] at unused
        cases unused
      rw [published.files _ committed, if_neg elsewhere]
      exact recoverable.readable other entry indexed
  | removed indexed =>
    rename_i ticket entry
    refine ⟨recoverable.usable, settled, ?_⟩
    intro other found remaining
    simp only [removeFile, OrderedMap.getElem?_erase] at remaining ⊢
    split at remaining
    next => cases remaining
    next different =>
      have elsewhere : entry.path ≠ found.path :=
        fun same => different (consistent.path_inj indexed remaining same)
      rw [if_neg elsewhere]
      exact recoverable.readable other found remaining

theorem stored_after (consistent : Consistent store) (kept : request ≠ .remove ticket) {entry : DiskEntry}
    (indexed : store.blocks[ticket]? = some entry) (present : store.files[entry.path]? = some content) :
    (store.after request).blocks[ticket]? = some entry ∧
      (store.after request).files[entry.path]? = some content := by
  have committed := (consistent.committed ticket entry indexed).1
  have changed := change_after consistent request
  generalize store.after request = next at changed
  cases changed with
  | unchanged same =>
    rw [same.blocks, same.files _ committed]
    exact ⟨indexed, present⟩
  | published fresh unused published =>
    rename_i other block stream next
    have different : other ≠ ticket := by
      rintro rfl
      exact nomatch fresh.symm.trans indexed
    have elsewhere : blockPath other ≠ entry.path := by
      intro here
      rw [here, present] at unused
      exact nomatch unused
    simp only [addBlock, published.blocks, OrderedMap.getElem?_insert, if_neg different,
      published.files _ committed, if_neg elsewhere]
    exact ⟨indexed, present⟩
  | removed gone =>
    rename_i other found
    have different : other ≠ ticket := fun same => kept (same ▸ rfl)
    have elsewhere : found.path ≠ entry.path :=
      fun same => different (consistent.path_inj gone indexed same)
    simp only [removeFile, OrderedMap.getElem?_erase, if_neg different, if_neg elsewhere]
    exact ⟨indexed, present⟩

theorem absent_after (consistent : Consistent store) (kept : ∀ block, request ≠ .insert ticket block)
    (absent : store.blocks[ticket]? = none) : (store.after request).blocks[ticket]? = none := by
  have changed := change_after consistent request
  generalize store.after request = next at changed
  cases changed with
  | unchanged same => rw [same.blocks, absent]
  | published fresh unused published =>
    rename_i other block stream next
    have different : other ≠ ticket := fun same => kept block (same ▸ rfl)
    simp only [addBlock, published.blocks, OrderedMap.getElem?_insert, if_neg different, absent]
  | removed gone => simp only [OrderedMap.getElem?_erase, absent, ite_self]

end

section

def afterAll (store : DiskBlockStore) (requests : List (Call F)) : DiskBlockStore :=
  requests.foldl after store

def AdmissibleRun (store : DiskBlockStore) : List (Call F) → Prop
  | [] => True
  | request :: rest => Admissible store request ∧ AdmissibleRun (store.after request) rest

variable {store : DiskBlockStore} {requests : List (Call F)}

theorem Recoverable.run (recoverable : Recoverable F store) (admissible : AdmissibleRun store requests) :
    Recoverable F (store.afterAll requests) := by
  induction requests generalizing store with
  | nil => exact recoverable
  | cons request rest ih => exact ih (recoverable.step admissible.1) admissible.2

variable {ticket : String}

theorem stored_afterAll (recoverable : Recoverable F store) (admissible : AdmissibleRun store requests)
    (kept : Call.remove ticket ∉ requests) {entry : DiskEntry} (indexed : store.blocks[ticket]? = some entry)
    (present : store.files[entry.path]? = some content) :
    (store.afterAll requests).blocks[ticket]? = some entry ∧
      (store.afterAll requests).files[entry.path]? = some content := by
  induction requests generalizing store with
  | nil => exact ⟨indexed, present⟩
  | cons request rest ih =>
    have ⟨here, later⟩ := not_or.mp (List.mem_cons.not.mp kept)
    have ⟨indexed, present⟩ :=
      stored_after recoverable.consistent (fun same => here same.symm) indexed present
    exact ih (recoverable.step admissible.1) admissible.2 later indexed present

theorem absent_afterAll (recoverable : Recoverable F store) (admissible : AdmissibleRun store requests)
    (kept : ∀ block, Call.insert ticket block ∉ requests) (absent : store.blocks[ticket]? = none) :
    (store.afterAll requests).blocks[ticket]? = none := by
  induction requests generalizing store with
  | nil => exact absent
  | cons request rest ih =>
    have here (block : StoredBlock F) := not_or.mp (List.mem_cons.not.mp (kept block))
    have absent := absent_after recoverable.consistent (fun block same => (here block).1 same.symm) absent
    exact ih (recoverable.step admissible.1) admissible.2 (fun block => (here block).2) absent

variable (F) in
theorem recoverable_open {files : TreeMap String (List UInt8)} {listing : List (String × List UInt8)}
    {capacity : Nat} (listed : listing.Perm files.toList)
    (opened : DiskBlockStore.open F files listing capacity = .ok store) : Recoverable F store := by
  have scanned := scanned_open opened
  obtain ⟨consistent, readable⟩ := scanned.consistent listed
  obtain ⟨usable, _⟩ := check_ok.mp opened
  exact ⟨by rw [scanned.capacity]; exact rejectIf_ok.mp usable, consistent, readable⟩

def Serves (store : DiskBlockStore) (ticket : String) (block : StoredBlock F) : Prop :=
  ∃ found, store.get F {} ticket = .ok found ∧ found.schema = block.schema ∧
    found.batches = block.batches ∧ found.checksum = block.checksum

-- Neither `get` nor a store opened on the same files knows the ticket.
def Forgets (F : Type) [BlockFormats F] (store : DiskBlockStore) (ticket : String) : Prop :=
  store.get F {} ticket = .error missing ∧
  ∀ (listing : List (String × List UInt8)) (reopened : DiskBlockStore),
    listing.Perm store.files.toList →
    DiskBlockStore.open F store.files listing store.capacity = .ok reopened →
    reopened.blocks[ticket]? = none

theorem Recoverable.forgets (recoverable : Recoverable F store) (absent : store.blocks[ticket]? = none) :
    Forgets F store ticket := by
  constructor
  · rw [get, absent]
    rfl
  · intro listing reopened listed opened
    obtain ⟨found, same, lookups, _⟩ := recoverable.restarts listing listed
    cases opened.symm.trans same
    rw [lookups, absent]

variable {published : DiskBlockStore} {block : StoredBlock F}

theorem insert_ok (inserted : (insert {} ticket block).run store = (.ok (), published)) :
    store.after (.insert ticket block) = published ∧
    ((published = store ∧ ∃ entry, store.blocks[ticket]? = some entry ∧
      entry.checksum = block.checksum) ∨
    (store.blocks[ticket]? = none ∧ ∃ stream entry,
      BlockFormats.writeStream block.schema block.batches = .ok stream ∧
      published.blocks[ticket]? = some entry ∧ entry.checksum = block.checksum ∧
      isBlockFile entry.path = true ∧
      published.files[entry.path]? = some (fileContent ticket block stream))) := by
  refine ⟨?_, ?_⟩
  · change ((insert {} ticket block >>= fun _ => pure none).run store).2 = published
    rw [Stateful.run_bind_ok inserted]
    rfl
  · have outcome := insert_outcome {} ticket block store
    rw [Stateful.Yields, inserted] at outcome
    cases outcome with
    | repeated indexed same => exact .inl ⟨rfl, _, indexed, same⟩
    | published synced fresh unused stored =>
      have committed := isBlockFile_blockPath ticket
      exact .inr ⟨fresh, _, _, stored.written, blocks_addBlock _ ticket _, rfl, committed,
        (stored.files _ committed).trans (if_pos rfl)⟩

theorem serves_insert (recoverable : Recoverable F store) (genuine : Genuine ticket block)
    (inserted : (insert {} ticket block).run store = (.ok (), published)) :
    Serves published ticket block ↔ Legible store ticket block := by
  obtain ⟨_, ⟨rfl, entry, indexed, same⟩ | ⟨fresh, stream, entry, written, indexed, same, _, present⟩⟩ :=
    insert_ok inserted
  next =>
    -- The block was there: what is served is what its file holds.
    obtain ⟨content, header, stored, present, read, named, checksum⟩ :=
      recoverable.readable ticket entry indexed
    have sum := readBlock_checksum read
    rw [Legible, indexed]
    constructor
    · rintro ⟨found, got, schema, batches, _⟩
      obtain ⟨entry', content, header, indexed', present, read, _⟩ := get_ok.mp got
      cases indexed.symm.trans indexed'
      exact ⟨content, header, found, present, read, schema, batches⟩
    · rintro ⟨_, _, _, present', read', schema, batches⟩
      cases present.symm.trans present'
      cases read.symm.trans read'
      exact ⟨stored, get_ok.mpr ⟨entry, content, header, indexed, present, read, named,
        checksum.symm.trans sum⟩, schema, batches, sum.symm.trans (checksum.trans same)⟩
  next =>
    rw [legible_fresh fresh]
    constructor
    · rintro ⟨found, got, _⟩
      obtain ⟨entry', content, header, indexed', present', read, _⟩ := get_ok.mp got
      cases indexed.symm.trans indexed'
      cases present.symm.trans present'
      exact Nat.le_of_not_lt fun long => readBlock_long genuine.trips long _ read
    · intro short
      have read := readBlock_fileContent genuine.trips genuine.uploaded written short
      exact ⟨block, get_ok.mpr ⟨entry, _, _, indexed, present, read, rfl, same⟩, rfl, rfl, rfl⟩

theorem readable_of_open {files : TreeMap String (List UInt8)} {listing : List (String × List UInt8)}
    {capacity : Nat} (listed : listing.Perm files.toList)
    (opened : DiskBlockStore.open F files listing capacity = .ok store) {name : String}
    (committed : isBlockFile name = true) (present : files[name]? = some content) :
    ∃ result, readBlock F content = .ok result := by
  have scanned := scanned_open opened
  rw [← OrderedMap.mem_toList, ← listed.mem_iff] at present
  obtain ⟨ticket, entry, indexed, path⟩ := scanned.listed _ present committed
  obtain ⟨_, found, header, block, member, _, read, _⟩ := scanned.indexed ticket entry indexed
  rw [path, listed.mem_iff, OrderedMap.mem_toList] at member
  rw [listed.mem_iff, OrderedMap.mem_toList] at present
  cases present.symm.trans member
  exact ⟨_, read⟩

theorem not_restarts_insert (genuine : Genuine ticket block) (fresh : store.blocks[ticket]? = none)
    (inserted : (insert {} ticket block).run store = (.ok (), published))
    (long : 4096 < (Header.new ticket block).toJson.length) : ¬Restarts F published := by
  intro restarts
  obtain ⟨reopened, opened, _⟩ := restarts published.files.toList (.refl _)
  obtain ⟨_, ⟨rfl, entry, indexed, _⟩ | ⟨_, stream, entry, _, _, _, committed, present⟩⟩ :=
    insert_ok inserted
  · exact nomatch fresh.symm.trans indexed
  · obtain ⟨result, read⟩ := readable_of_open (.refl _) opened committed present
    exact readBlock_long genuine.trips long result read

theorem Serves.run (recoverable : Recoverable F store) (admissible : AdmissibleRun store requests)
    (serves : Serves store ticket block) (kept : Call.remove ticket ∉ requests) :
    Serves (store.afterAll requests) ticket block := by
  obtain ⟨found, got, same⟩ := serves
  obtain ⟨entry, content, header, indexed, present, read⟩ := get_ok.mp got
  have ⟨indexed, present⟩ := stored_afterAll recoverable admissible kept indexed present
  exact ⟨found, get_ok.mpr ⟨entry, content, header, indexed, present, read⟩, same⟩

theorem remove_ok {removed : DiskBlockStore} (ran : (remove {} ticket).run store = (.ok (), removed)) :
    store.after (.remove ticket : Call F) = removed ∧ removed.blocks[ticket]? = none := by
  constructor
  · change ((remove {} ticket >>= fun _ => pure (none : Option (StoredBlock F))).run store).2 = removed
    rw [Stateful.run_bind_ok ran]
    rfl
  · have outcome := remove_outcome {} ticket store
    rw [Stateful.Yields, ran] at outcome
    cases outcome with
    | removed => rw [OrderedMap.getElem?_erase, if_pos rfl]

theorem published_block_survives {files : TreeMap String (List UInt8)}
    {listing : List (String × List UInt8)} {capacity : Nat} {store : DiskBlockStore}
    (listed : listing.Perm files.toList)
    (opened : DiskBlockStore.open F files listing capacity = .ok store)
    {requests : List (Call F)} (admissible : AdmissibleRun store requests)
    {ticket : String} {block : StoredBlock F} (genuine : Genuine ticket block)
    {published : DiskBlockStore}
    (inserted : (insert {} ticket block).run (store.afterAll requests) = (.ok (), published)) :
    (∀ later : List (Call F), AdmissibleRun published later → Call.remove ticket ∉ later →
      Serves (published.afterAll later) ticket block ∧ Restarts F (published.afterAll later) ∧
      ∀ removed, (remove {} ticket).run (published.afterAll later) = (.ok (), removed) →
        ∀ last : List (Call F), AdmissibleRun removed last →
          (∀ other, Call.insert ticket other ∉ last) →
          Forgets F (removed.afterAll last) ticket ∧ Restarts F (removed.afterAll last)) ↔
    Legible (store.afterAll requests) ticket block := by
  have before := (recoverable_open F listed opened).run admissible
  rw [← serves_insert before genuine inserted]
  constructor
  · intro property
    exact (property [] trivial List.not_mem_nil).1
  · intro serves later admissible kept
    have legible := (serves_insert before genuine inserted).mp serves
    have request : Admissible (store.afterAll requests) (.insert ticket block) := fun _ => ⟨genuine, legible⟩
    have after : Recoverable F published := (insert_ok inserted).1 ▸ before.step request
    have here := after.run admissible
    refine ⟨serves.run after admissible kept, here.restarts, ?_⟩
    intro removed ran last admissible unpublished
    obtain ⟨reached, absent⟩ := remove_ok (F := F) ran
    have request : Admissible (published.afterAll later) (.remove ticket : Call F) := trivial
    have without : Recoverable F removed := reached ▸ here.step request
    have final := without.run admissible
    exact ⟨final.forgets (absent_afterAll without admissible unpublished absent), final.restarts⟩

end

end DiskBlockStore

theorem sample_genuine : DiskBlockStore.Genuine sampleTicket sampleBlock := by
  have short := length_sample
  refine ⟨⟨if_pos rfl, fun huge => ?_, ?_⟩, rfl⟩
  · omega
  · rintro _ ⟨⟩
    rfl

omit [BlockFormats F] in
theorem length_toJson_indented (count : Nat) (ticket : String) (block : StoredBlock F) :
    (Header.new (indented count ticket) block).toJson.length =
      count + (Header.new ticket block).toJson.length := by
  have spaces : ((List.replicate count ' ').flatMap escapeChar).flatMap String.utf8EncodeChar =
      List.replicate count 32 := by
    induction count with
    | zero => rfl
    | succ count ih =>
      simp only [List.replicate_succ, List.flatMap_cons, List.flatMap_append, ih]
      rfl
  simp only [Header.toJson, Header.new, indented, jsonText, Octets.ofChars, String.toList_ofList, List.flatMap_append,
    List.flatMap_cons, List.cons_append, List.length_append, spaces, List.length_replicate]
  omega

theorem length_padded : (Header.new paddedTicket sampleBlock).toJson.length =
    4097 + (Header.new sampleTicket sampleBlock).toJson.length := by
  exact length_toJson_indented 4097 sampleTicket sampleBlock

theorem dropWhile_indented {skip : Char → Bool} (blank : skip ' ' = true) (count : Nat)
    (ticket : String) :
    (indented count ticket).toList.dropWhile skip = ticket.toList.dropWhile skip := by
  rw [indented, String.toList_ofList]
  induction count with
  | zero => rfl
  | succ count ih =>
    rw [List.replicate_succ, List.cons_append, List.dropWhile_cons_of_pos blank]
    exact ih

theorem padded_dropWhile :
    paddedTicket.toList.dropWhile (· ∈ [' ', '\n', '\t', '\r']) = sampleTicket.toList := by
  have start : sampleTicket.toList.dropWhile (· ∈ [' ', '\n', '\t', '\r']) = sampleTicket.toList := by
    decide +kernel
  exact (dropWhile_indented (by decide) 4097 sampleTicket).trans start

theorem padded_genuine : DiskBlockStore.Genuine paddedTicket sampleBlock := by
  have short := length_sample
  have long := length_padded
  have other : (Header.new paddedTicket sampleBlock).toJson ≠ (Header.new sampleTicket sampleBlock).toJson := by
    intro same
    rw [same] at long
    omega
  refine ⟨⟨?_, fun huge => ?_, ?_⟩, rfl⟩
  · exact (if_neg other).trans (if_pos rfl)
  · omega
  · rintro _ ⟨⟩
    rfl

theorem emptyStore_publishable (ticket : String)
    (short : (Header.new ticket sampleBlock).toJson.length ≤ 8000) :
    ∃ published, (DiskBlockStore.insert {} ticket sampleBlock).run emptyStore = (.ok (), published) := by
  have fits : (DiskBlockStore.fileContent ticket sampleBlock sampleStream).length ≤
      emptyStore.availableBytes := by
    have room : emptyStore.availableBytes = 8192 := rfl
    have ending : sampleStream.length = 16 := rfl
    rw [DiskBlockStore.length_fileContent]
    omega
  exact ⟨_, DiskBlockStore.insert_run rfl TreeMap.getElem?_emptyc TreeMap.getElem?_emptyc
    ⟨rfl, TreeMap.getElem?_emptyc, if_pos rfl, fits, rfl, rfl, rfl, rfl⟩⟩

theorem DiskBlockStore.published_block_survives_of_sample :
    ∃ published, (DiskBlockStore.insert {} sampleTicket sampleBlock).run emptyStore = (.ok (), published) ∧
      published.Serves sampleTicket sampleBlock ∧ DiskBlockStore.Restarts Binary64 published := by
  have short := length_sample
  obtain ⟨published, inserted⟩ := emptyStore_publishable sampleTicket (by omega)
  have legible : DiskBlockStore.Legible emptyStore sampleTicket sampleBlock :=
    (DiskBlockStore.legible_fresh TreeMap.getElem?_emptyc).mpr (by omega)
  have start : DiskBlockStore.AdmissibleRun emptyStore ([] : List (DiskBlockStore.Call Binary64)) :=
    trivial
  have property := (DiskBlockStore.published_block_survives (.refl _) open_emptyStore start
    sample_genuine inserted).mpr legible [] trivial List.not_mem_nil
  exact ⟨published, inserted, property.1, property.2.1⟩

theorem DiskBlockStore.padded_ticket_is_lost :
    decodeTicket Binary64 paddedTicket = .ok sampleBlockTicket ∧
    DiskBlockStore.Genuine paddedTicket sampleBlock ∧
    DiskBlockStore.open Binary64 ∅ [] 8192 = .ok emptyStore ∧
    ∃ published, (DiskBlockStore.insert {} paddedTicket sampleBlock).run emptyStore = (.ok (), published) ∧
      ¬published.Serves paddedTicket sampleBlock ∧ ¬DiskBlockStore.Restarts Binary64 published := by
  have short := length_sample
  have long := length_padded
  obtain ⟨published, inserted⟩ := emptyStore_publishable paddedTicket (by omega)
  have recoverable := DiskBlockStore.recoverable_open Binary64 (.refl _) open_emptyStore
  refine ⟨?_, padded_genuine, open_emptyStore, published, inserted, ?_, ?_⟩
  · have parsed : BlockFormats.parseTicket Binary64 paddedTicket = .ok sampleBlockTicket :=
      if_pos padded_dropWhile
    rw [decodeTicket, parsed]
    rfl
  · rw [DiskBlockStore.serves_insert recoverable padded_genuine inserted,
      DiskBlockStore.legible_fresh TreeMap.getElem?_emptyc]
    omega
  · exact DiskBlockStore.not_restarts_insert padded_genuine TreeMap.getElem?_emptyc inserted (by omega)

end SparkX
