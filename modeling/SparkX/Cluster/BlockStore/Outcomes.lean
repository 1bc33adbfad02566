import SparkX.Cluster.BlockStore.Model

set_option autoImplicit false

namespace SparkX

open Std

variable {F : Type}

theorem isBlockFile_blockPath (ticket : String) : isBlockFile (DiskBlockStore.blockPath ticket) = true := by
  have start : "sparkx-".toList <+: (DiskBlockStore.blockPath ticket).toList := by
    simp only [DiskBlockStore.blockPath, DiskBlockStore.blockName, Text.toString_text,
      String.toList_append, List.append_assoc]
    exact List.prefix_append _ _
  have ending : ".block".toList <:+ (DiskBlockStore.blockPath ticket).toList := by
    rw [DiskBlockStore.blockPath, String.toList_append]
    exact List.suffix_append _ _
  have committed : ¬".pending".toList <:+ (DiskBlockStore.blockPath ticket).toList := by
    intro pending
    exact absurd (List.suffix_of_suffix_length_le ending pending (by decide)) (by decide)
  simp only [isBlockFile, isStoreFile, isPending, Bool.and_eq_true, Bool.not_eq_true',
    List.isPrefixOf_iff_prefix, List.isSuffixOf_iff_suffix, ← Bool.not_eq_true]
  exact ⟨⟨start, committed⟩, ending⟩

theorem isPending_pendingPath (ticket : String) : isPending (DiskBlockStore.pendingPath ticket) = true := by
  rw [isPending, List.isSuffixOf_iff_suffix, DiskBlockStore.pendingPath, String.toList_append]
  exact List.suffix_append _ _

theorem ne_pendingPath {name : String} (committed : isBlockFile name = true) (ticket : String) :
    DiskBlockStore.pendingPath ticket ≠ name := by
  rintro rfl
  simp [isBlockFile, isPending_pendingPath] at committed

namespace DiskBlockStore

structure SameCommitted (before after : DiskBlockStore) : Prop where
  capacity : after.capacity = before.capacity
  used : after.used = before.used
  blocks : after.blocks = before.blocks
  files : ∀ name, isBlockFile name = true → after.files[name]? = before.files[name]?

theorem SameCommitted.refl (store : DiskBlockStore) : SameCommitted store store :=
  ⟨rfl, rfl, rfl, fun _ _ => rfl⟩

theorem SameCommitted.trans {first second third : DiskBlockStore}
    (early : SameCommitted first second) (late : SameCommitted second third) :
    SameCommitted first third where
  capacity := late.capacity.trans early.capacity
  used := late.used.trans early.used
  blocks := late.blocks.trans early.blocks
  files name committed := (late.files name committed).trans (early.files name committed)

theorem sameCommitted_writeFile (store : DiskBlockStore) (ticket : String) (content : List UInt8) :
    SameCommitted store (store.writeFile (pendingPath ticket) content) where
  capacity := rfl
  used := rfl
  blocks := rfl
  files name committed := by
    rw [writeFile, OrderedMap.getElem?_insert, if_neg (ne_pendingPath committed ticket)]

theorem sameCommitted_removeFile (store : DiskBlockStore) {name : String}
    (uncommitted : isBlockFile name = false) : SameCommitted store (store.removeFile name) where
  capacity := rfl
  used := rfl
  blocks := rfl
  files other committed := by
    rw [removeFile, OrderedMap.getElem?_erase, if_neg]
    rintro rfl
    exact absurd committed (by simp [uncommitted])

theorem sameCommitted_removePending (store : DiskBlockStore) (ticket : String) :
    SameCommitted store (store.removeFile (pendingPath ticket)) :=
  store.sameCommitted_removeFile (by simp [isBlockFile, isPending_pendingPath])

variable [BlockFormats F]

-- One more published file, the one of `ticket`; the index is as it was.
structure Published (ticket : String) (block : StoredBlock F) (stream : List UInt8)
    (before after : DiskBlockStore) : Prop where
  written : BlockFormats.writeStream block.schema block.batches = .ok stream
  fits : (fileContent ticket block stream).length ≤ before.availableBytes
  capacity : after.capacity = before.capacity
  used : after.used = before.used
  blocks : after.blocks = before.blocks
  files : ∀ name, isBlockFile name = true → after.files[name]? =
    if blockPath ticket = name then some (fileContent ticket block stream) else before.files[name]?

theorem Published.same {ticket : String} {block : StoredBlock F} {stream : List UInt8}
    {before middle after : DiskBlockStore} (published : Published ticket block stream before middle)
    (same : SameCommitted middle after) : Published ticket block stream before after where
  written := published.written
  fits := published.fits
  capacity := same.capacity.trans published.capacity
  used := same.used.trans published.used
  blocks := same.blocks.trans published.blocks
  files name committed := (same.files name committed).trans (published.files name committed)

variable {ticket : String} {block : StoredBlock F} {stream : List UInt8} {store : DiskBlockStore}

theorem published_renameFile {before : DiskBlockStore} (same : SameCommitted before store)
    (written : BlockFormats.writeStream block.schema block.batches = .ok stream)
    (fits : (fileContent ticket block stream).length ≤ before.availableBytes) :
    Published ticket block stream before (store.renameFile (pendingPath ticket) (blockPath ticket)
      (fileContent ticket block stream)) where
  written := written
  fits := fits
  capacity := same.capacity
  used := same.used
  blocks := same.blocks
  files name committed := by
    rw [renameFile, writeFile, OrderedMap.getElem?_insert, removeFile, OrderedMap.getElem?_erase,
      if_neg (ne_pendingPath committed ticket), same.files name committed]

theorem yields_attempt {α : Type} {failure : Option String} {s : DiskBlockStore}
    {rest : Unit → Stateful Fault DiskBlockStore α} {post : Except Fault α → DiskBlockStore → Prop}
    (failed : ∀ message, failure = some message → post (.error (.error (.io message))) s)
    (passed : failure = none → (rest ()).Yields s post) :
    ((liftM (attempt failure) : Stateful Fault DiskBlockStore Unit) >>= rest).Yields s post := by
  apply yields_check
  · intro error rejected
    cases failure with
    | none => exact nomatch rejected
    | some message =>
      cases rejected
      exact failed message rfl
  · intro _ accepted
    cases failure with
    | none => exact passed rfl
    | some message => exact nomatch accepted

omit [BlockFormats F] in
theorem length_fileContent (ticket : String) (block : StoredBlock F) (stream : List UInt8) :
    (fileContent ticket block stream).length =
      stream.length + (Header.new ticket block).toJson.length + 4 := by
  simp only [fileContent, List.length_append, Octets.length_ofLength]
  omega

theorem getElem?_eq_none {V : Type} {map : TreeMap String V} {key : String} :
    ¬map.contains key = true ↔ map[key]? = none := by
  simp only [Bool.not_eq_true, TreeMap.contains_eq_isSome_getElem?, Option.isSome_eq_false_iff,
    Option.isNone_iff_eq_none]

structure Publishable (faults : Faults) (ticket : String) (block : StoredBlock F)
    (stream : List UInt8) (before : DiskBlockStore) : Prop where
  created : faults.create = none
  free : before.files[pendingPath ticket]? = none
  streamed : BlockFormats.writeStream block.schema block.batches = .ok stream
  fits : (fileContent ticket block stream).length ≤ before.availableBytes
  wrote : faults.write = none
  measured : faults.stat = none
  synced : faults.sync = none
  renamed : faults.rename = none

inductive PublishOutcome (faults : Faults) (ticket : String) (block : StoredBlock F)
    (before : DiskBlockStore) : Except Fault Nat → DiskBlockStore → Prop where
  | refused {after : DiskBlockStore} (fault : Fault)
    (blocked : ∀ stream, ¬Publishable faults ticket block stream before)
    (same : SameCommitted before after) :
    PublishOutcome faults ticket block before (.error fault) after
  | unsynced {after : DiskBlockStore} {stream : List UInt8} (message : String)
    (lost : faults.syncDirectory = some message)
    (able : Publishable faults ticket block stream before)
    (published : Published ticket block stream before after) :
    PublishOutcome faults ticket block before (.error (.error (.io message))) after
  | published {after : DiskBlockStore} {stream : List UInt8} (synced : faults.syncDirectory = none)
    (published : Published ticket block stream before after) :
    PublishOutcome faults ticket block before (.ok (fileContent ticket block stream).length) after

theorem publish_outcome (faults : Faults) (ticket : String) (block : StoredBlock F)
    (before : DiskBlockStore) :
    (publish faults ticket block).Yields before (PublishOutcome faults ticket block before) := by
  have pending (content : List UInt8) := before.sameCommitted_writeFile ticket content
  unfold publish
  apply Stateful.Yields.get
  apply yields_attempt
  next =>
    intro message failed
    exact .refused _ (fun _ able => nomatch able.created.symm.trans failed) (.refl before)
  next =>
  intro created
  apply yields_rejectIf
  next =>
    intro taken
    exact .refused _ (fun _ able => getElem?_eq_none.mpr able.free taken) (.refl before)
  next =>
  intro free
  apply Stateful.Yields.modify
  apply yields_check
  next =>
    intro error failed
    exact .refused _ (fun _ able => nomatch able.streamed.symm.trans failed) (pending [])
  next =>
  intro stream streamed
  -- Both tests of the size ask for the same room.
  have short (tight : before.availableBytes < (fileContent ticket block stream).length) :
      ∀ other, ¬Publishable faults ticket block other before := by
    intro other able
    cases streamed.symm.trans able.streamed
    exact absurd able.fits (Nat.not_le.mpr tight)
  apply yields_rejectIf
  next =>
    intro tight
    exact .refused _ (short (by rwa [length_fileContent])) (pending [])
  next =>
  intro _
  apply Stateful.Yields.modify
  have kept (content : List UInt8) := (pending []).trans
    ((before.writeFile (pendingPath ticket) []).sameCommitted_writeFile ticket content)
  apply yields_attempt
  next =>
    intro message failed
    exact .refused _ (fun _ able => nomatch able.wrote.symm.trans failed) (kept _)
  next =>
  intro wrote
  apply yields_attempt
  next =>
    intro message failed
    exact .refused _ (fun _ able => nomatch able.measured.symm.trans failed) (kept _)
  next =>
  intro measured
  apply yields_rejectIf
  next => exact fun tight => .refused _ (short tight) (kept _)
  next =>
  intro room
  apply yields_attempt
  next =>
    intro message failed
    exact .refused _ (fun _ able => nomatch able.synced.symm.trans failed) (kept _)
  next =>
  intro synced
  apply yields_attempt
  next =>
    intro message failed
    exact .refused _ (fun _ able => nomatch able.renamed.symm.trans failed) (kept _)
  next =>
  -- From here on the file is there, whatever becomes of the directory's sync.
  intro renamed
  apply Stateful.Yields.modify
  have fits := Nat.le_of_not_lt room
  have published (content : List UInt8) := published_renameFile (kept content) streamed fits
  apply yields_attempt
  next =>
    intro message lost
    exact .unsynced message lost
      ⟨created, getElem?_eq_none.mp free, streamed, fits, wrote, measured, synced, renamed⟩ (published _)
  next => exact fun durable => .published durable (published _)

inductive InsertOutcome (faults : Faults) (ticket : String) (block : StoredBlock F)
    (before : DiskBlockStore) : Except Fault Unit → DiskBlockStore → Prop where
  | conflict {entry : DiskEntry} (error : SparkXError)
    (indexed : before.blocks[ticket]? = some entry) (other : entry.checksum ≠ block.checksum) :
    InsertOutcome faults ticket block before (.error (.error error)) before
  | collision {content : List UInt8} (error : SparkXError) (fresh : before.blocks[ticket]? = none)
    (taken : before.files[blockPath ticket]? = some content) :
    InsertOutcome faults ticket block before (.error (.error error)) before
  | refused {after : DiskBlockStore} (fault : Fault)
    (blocked : ∀ stream, ¬Publishable faults ticket block stream before)
    (same : SameCommitted before after) :
    InsertOutcome faults ticket block before (.error fault) after
  | repeated {entry : DiskEntry} (indexed : before.blocks[ticket]? = some entry)
    (same : entry.checksum = block.checksum) :
    InsertOutcome faults ticket block before (.ok ()) before
  | unsynced {after : DiskBlockStore} {stream : List UInt8} (message : String)
    (lost : faults.syncDirectory = some message) (fresh : before.blocks[ticket]? = none)
    (unused : before.files[blockPath ticket]? = none)
    (able : Publishable faults ticket block stream before)
    (published : Published ticket block stream before after) :
    InsertOutcome faults ticket block before (.error (.error (.io message))) after
  | published {after : DiskBlockStore} {stream : List UInt8} (synced : faults.syncDirectory = none)
    (fresh : before.blocks[ticket]? = none) (unused : before.files[blockPath ticket]? = none)
    (published : Published ticket block stream before after) :
    InsertOutcome faults ticket block before (.ok ()) (after.addBlock ticket
      { path := blockPath ticket, bytes := (fileContent ticket block stream).length,
        checksum := block.checksum })

theorem sameCommitted_cleanup (faults : Faults) (ticket : String) (store : DiskBlockStore) :
    SameCommitted store (if faults.cleanup.isSome then store
      else store.removeFile (pendingPath ticket)) := by
  split
  next => exact .refl store
  next => exact store.sameCommitted_removePending ticket

theorem tidied_outcome (faults : Faults) (ticket : String) (block : StoredBlock F)
    (before : DiskBlockStore) :
    (tryCatch (publish faults ticket block) fun error => do
      cleanup faults (pendingPath ticket)
      throw error).Yields before (PublishOutcome faults ticket block before) := by
  apply (publish_outcome faults ticket block before).tryCatch
  · exact fun _ _ outcome => outcome
  · intro fault store outcome
    apply Stateful.Yields.modify
    apply Stateful.Yields.throw
    have tidy := sameCommitted_cleanup faults ticket store
    cases outcome with
    | refused _ blocked same => exact .refused _ blocked (same.trans tidy)
    | unsynced message lost able published => exact .unsynced message lost able (published.same tidy)

theorem insert_outcome (faults : Faults) (ticket : String) (block : StoredBlock F)
    (before : DiskBlockStore) :
    (insert faults ticket block).Yields before (InsertOutcome faults ticket block before) := by
  unfold insert
  apply Stateful.Yields.get
  split
  next existing indexed =>
    apply yields_last_check
    · intro error rejected
      exact .conflict error indexed (rejectIf_error.mp rejected).1
    · intro _ accepted
      exact .repeated indexed (not_not.mp (rejectIf_ok.mp accepted))
  next fresh =>
    apply yields_rejectIf
    · intro taken
      rw [TreeMap.contains_eq_isSome_getElem?] at taken
      obtain ⟨content, taken⟩ := Option.isSome_iff_exists.mp taken
      exact .collision _ fresh taken
    intro unused
    have unused := getElem?_eq_none.mp unused
    apply (tidied_outcome faults ticket block before).seq
    · intro fault after outcome
      cases outcome with
      | refused _ blocked same => exact .refused _ blocked same
      | unsynced message lost able published =>
        exact .unsynced message lost fresh unused able published
    · intro bytes after outcome
      cases outcome with
      | published synced published => exact .published synced fresh unused published

theorem attempt_none {failure : Option String} (fine : failure = none) : attempt failure = .ok () := by
  subst fine
  rfl

def withFile (store : DiskBlockStore) (ticket : String) (content : List UInt8) : DiskBlockStore :=
  ((store.writeFile (pendingPath ticket) []).writeFile (pendingPath ticket) content).renameFile
    (pendingPath ticket) (blockPath ticket) content

theorem publish_run {faults : Faults} (synced : faults.syncDirectory = none)
    (able : Publishable faults ticket block stream store) :
    (publish faults ticket block).run store = (.ok (fileContent ticket block stream).length,
        store.withFile ticket (fileContent ticket block stream)) := by
  have room := able.fits
  have clear {condition : Prop} [Decidable condition] {error : SparkXError} (holds : ¬condition) :
      rejectIf condition error = .ok () := rejectIf_ok.mpr holds
  unfold publish
  rw [Stateful.run_bind_get, run_check (attempt_none able.created),
    run_check (clear (getElem?_eq_none.mpr able.free)), Stateful.run_bind_modify,
    run_check able.streamed, run_check (clear (by rw [length_fileContent] at room; omega)),
    Stateful.run_bind_modify, run_check (attempt_none able.wrote),
    run_check (attempt_none able.measured), run_check (clear (by omega)),
    run_check (attempt_none able.synced), run_check (attempt_none able.renamed),
    Stateful.run_bind_modify, run_check (attempt_none synced), able.wrote]
  rfl

def withBlock (store : DiskBlockStore) (ticket : String) (content : List UInt8) (checksum : String) :
    DiskBlockStore :=
  (store.withFile ticket content).addBlock ticket
    { path := blockPath ticket, bytes := content.length, checksum }

section

variable (store : DiskBlockStore) (ticket : String) (content : List UInt8) (checksum : String)

theorem capacity_withBlock : (store.withBlock ticket content checksum).capacity = store.capacity := rfl

theorem used_withBlock : (store.withBlock ticket content checksum).used = store.used + content.length := rfl

theorem blocks_withBlock : (store.withBlock ticket content checksum).blocks =
    store.blocks.insert ticket { path := blockPath ticket, bytes := content.length, checksum } := rfl

theorem files_withBlock (name : String) : (store.withBlock ticket content checksum).files[name]? =
    if blockPath ticket = name then some content
    else if pendingPath ticket = name then none else store.files[name]? := by
  simp only [withBlock, addBlock, withFile, renameFile, writeFile, removeFile,
    OrderedMap.getElem?_insert, OrderedMap.getElem?_erase]
  split
  next => rfl
  next =>
    split
    next => rfl
    next => rfl

end

theorem insert_run {faults : Faults} (synced : faults.syncDirectory = none)
    (fresh : store.blocks[ticket]? = none) (unused : store.files[blockPath ticket]? = none)
    (able : Publishable faults ticket block stream store) :
    (insert faults ticket block).run store =
      (.ok (), store.withBlock ticket (fileContent ticket block stream) block.checksum) := by
  unfold insert
  rw [Stateful.run_bind_get]
  simp only [fresh]
  rw [run_check (rejectIf_ok.mpr (getElem?_eq_none.mpr unused)),
    Stateful.run_bind_ok (Stateful.run_tryCatch_ok (publish_run synced able) _)]
  rfl

def Unlinkable (faults : Faults) (entry : DiskEntry) (before : DiskBlockStore) : Prop :=
  faults.unlink = none ∧ before.files[entry.path]? ≠ none

inductive RemoveOutcome (faults : Faults) (ticket : String) (before : DiskBlockStore) :
    Except Fault Unit → DiskBlockStore → Prop where
  | refused (error : SparkXError)
    (blocked : ∀ entry : DiskEntry, before.blocks[ticket]? = some entry → ¬Unlinkable faults entry before) :
    RemoveOutcome faults ticket before (.error (.error error)) before
  | unsynced {entry : DiskEntry} (message : String) (lost : faults.syncDirectory = some message)
    (indexed : before.blocks[ticket]? = some entry) (able : Unlinkable faults entry before) :
    RemoveOutcome faults ticket before (.error (.error (.io message))) (before.removeFile entry.path)
  | short {entry : DiskEntry} (indexed : before.blocks[ticket]? = some entry)
    (short : before.used < entry.bytes) :
    RemoveOutcome faults ticket before (.error (.panic "attempt to subtract with overflow"))
      (before.removeFile entry.path)
  | removed {entry : DiskEntry} (synced : faults.syncDirectory = none)
    (indexed : before.blocks[ticket]? = some entry) (covered : entry.bytes ≤ before.used) :
    RemoveOutcome faults ticket before (.ok ())
      { before.removeFile entry.path with
        blocks := before.blocks.erase ticket, used := before.used - entry.bytes }

theorem remove_outcome (faults : Faults) (ticket : String) (before : DiskBlockStore) :
    (remove faults ticket).Yields before (RemoveOutcome faults ticket before) := by
  unfold remove
  apply Stateful.Yields.get
  apply yields_check
  next =>
    intro error failed
    refine .refused error fun entry indexed => ?_
    rw [okOr_ok.mpr indexed] at failed
    exact nomatch failed
  next =>
  intro entry found
  have indexed := okOr_ok.mp found
  have blocked (stuck : ¬Unlinkable faults entry before) (other : DiskEntry)
      (same : before.blocks[ticket]? = some other) : ¬Unlinkable faults other before := by
    cases indexed.symm.trans same
    exact stuck
  apply yields_attempt
  next =>
    intro message failed
    exact .refused _ (blocked fun able => nomatch able.1.symm.trans failed)
  next =>
  intro unlinked
  apply yields_rejectIf
  next =>
    intro absent
    have absent := getElem?_eq_none.mp (Bool.not_eq_true _ ▸ Bool.not_eq_true' _ ▸ absent)
    exact .refused _ (blocked fun able => able.2 absent)
  next =>
  -- The file is gone before the directory is synced and the index follows.
  intro present
  have able : Unlinkable faults entry before :=
    ⟨unlinked, fun absent => present (by simp only [getElem?_eq_none.mpr absent, Bool.not_false])⟩
  apply Stateful.Yields.modify
  apply yields_attempt
  next => exact fun message lost => .unsynced message lost indexed able
  next =>
  intro synced
  apply yields_expect indexed
  apply Stateful.Yields.lift
  · intro fault rejected
    obtain ⟨short, rfl⟩ := rejectIf_error.mp rejected
    exact .short indexed short
  · intro _ accepted
    exact .removed synced indexed (Nat.le_of_not_lt (rejectIf_ok.mp accepted))

end DiskBlockStore

end SparkX
