import SparkX.Runtime.Grouped
import SparkX.Shared.NestedLoop

set_option autoImplicit false

namespace SparkX

open Rowwise

variable {F : Type}

namespace Value

theorem slotOf_scalar [FloatOps F] {dataType : DataType} (buildable : dataType.isBuildable = true)
    {value : Value F} (typed : value.hasType dataType = true) (stored : value.Stored) :
    slotOf dataType value.scalar = value := by
  cases value with
  | null => cases dataType <;> rfl
  | int32 number =>
    cases dataType <;> cases typed
    exact congrArg Value.int32 (Signed.narrow_widen number)
  | uint32 number =>
    cases dataType <;> cases typed
    exact congrArg Value.uint32 (Fin.ext (Nat.mod_eq_of_lt number.isLt))
  | float32 number =>
    cases dataType <;> cases typed
    exact congrArg Value.float32 stored
  | _ => cases dataType <;> cases typed; first | rfl | cases buildable

end Value

def scalars (row : Row F) : List (ScalarValue F) := row.map Value.scalar

theorem scalarRow_ok {batch : RecordBatch F} {row : Row F} (member : row ∈ batch.rows)
    {read : List (ScalarValue F)} (done : scalarRow batch row = .ok read) : read = scalars row := by
  have full : batch.schema.types.length = row.length :=
    (List.length_map _).trans (batch.typed row member).length_eq
  have slots : List.Forall₂ (fun slot value => Value.scalar slot.2 = value) (batch.schema.types.zip row) read :=
    (mapM_ok.mp done).imp fun _ _ here => (Value.scalar_of_valueAt here).symm
  have second : (batch.schema.types.zip row).map Prod.snd = row := List.map_snd_zip full.ge
  have mapped := forall₂_eq.mp slots
  rw [mapped, scalars]
  conv_rhs => rw [← second, List.map_map]
  rfl

structure KeyedRow (F : Type) where
  types : List DataType
  key : EncodedKey F
  row : Row F

namespace KeyedRow

def hasNull (keyed : KeyedRow F) : Bool := keyed.key.any (·.isNull)

def seesNull (keyed : KeyedRow F) : Bool :=
  (keyed.types.zip keyed.key).any fun slot => slot.1 ≠ .null && slot.2.isNull

theorem hasNull_of_seesNull {keyed : KeyedRow F} (seen : keyed.seesNull = true) : keyed.hasNull = true := by
  obtain ⟨slot, member, null⟩ := List.any_eq_true.mp seen
  exact List.any_eq_true.mpr ⟨slot.2, (List.of_mem_zip member).2, (Bool.and_eq_true_iff.mp null).2⟩

variable [FloatOps F]

def joins (left right : KeyedRow F) : Bool := left.key = right.key && !left.hasNull

-- The keys are equal, and their NULLs are in columns of the type Null only.
def joinsUntyped (left right : KeyedRow F) : Bool :=
  left.key = right.key && left.hasNull && !left.seesNull

def finds (left right : KeyedRow F) : Bool :=
  left.key = right.key && !left.seesNull && !right.seesNull

end KeyedRow

section

variable [ArrowKernels F]

def keyedRow (on : List (Expr F)) (schema : Schema) (row : Row F) : KeyedRow F :=
  { types := on.map fun expr => (expr.typeIn schema).getD .null
    key := keyIn on schema row
    row }

def keyedRows (on : List (Expr F)) (batches : List (RecordBatch F)) : List (KeyedRow F) :=
  batches.flatMap fun batch => batch.rows.map (keyedRow on batch.schema)

def nestedLoopJoin (joinType : JoinType) (rightWidth : Nat) (lefts rights : List (KeyedRow F)) :
    List (Row F) :=
  NestedLoop.join KeyedRow.joins (fun left right => left.row ++ right.row)
    (fun left => if joinType = .left then [left.row ++ List.replicate rightWidth .null] else [])
    lefts rights

theorem keyedRows_append (on : List (Expr F)) (first second : List (RecordBatch F)) :
    keyedRows on (first ++ second) = keyedRows on first ++ keyedRows on second := List.flatMap_append

theorem keyedRows_singleton (on : List (Expr F)) (batch : RecordBatch F) :
    keyedRows on [batch] = batch.rows.map (keyedRow on batch.schema) := List.flatMap_singleton _ _

theorem mem_keyedRows {on : List (Expr F)} {batches : List (RecordBatch F)} {keyed : KeyedRow F} :
    keyed ∈ keyedRows on batches ↔ ∃ batch ∈ batches, ∃ row ∈ batch.rows, keyedRow on batch.schema row = keyed := by
  simp only [keyedRows, List.mem_flatMap, List.mem_map]

def Reads (on : List (Expr F)) (encoder : Option RowKeyEncoder) (batch : RecordBatch F) : Prop :=
  ∃ types, encoder = some ⟨types⟩ ∧ on.map (·.typeIn batch.schema) = types.map some

theorem Reads.types {on : List (Expr F)} {types : List DataType} {batch : RecordBatch F}
    (reads : Reads on (some ⟨types⟩) batch) (row : Row F) :
    (keyedRow on batch.schema row).types = types := by
  obtain ⟨_, known, typed⟩ := reads
  cases known
  have stripped := congrArg (List.map fun found : Option DataType => found.getD .null) typed
  rw [List.map_map, List.map_map] at stripped
  exact stripped.trans (List.map_id _)

theorem keyHasNull_eq {on : List (Expr F)} {batch : RecordBatch F} {arrays : List (ArrayRef F)}
    (evaluated : List.Forall₂ (fun expr array => evaluate expr batch = .ok array) on arrays)
    {index : Nat} {row : Row F} (present : batch.rows[index]? = some row) :
    keyHasNull arrays index = (keyedRow on batch.schema row).seesNull := by
  have slot {expr : Expr F} {array : ArrayRef F} (found : evaluate expr batch = .ok array) :
      array.dataType = (expr.typeIn batch.schema).getD .null ∧
        array.values.getD index .null = (expr.valueIn batch.schema row).getD .null := by
    rw [(evaluate_eq_ok.mp found).1, values_eq_map found, List.getD_eq_getElem?_getD, List.getElem?_map,
      present]
    exact ⟨rfl, rfl⟩
  unfold keyHasNull KeyedRow.seesNull keyedRow keyIn
  dsimp only
  induction evaluated with
  | nil => rfl
  | cons found _ ih =>
    have ⟨typed, value⟩ := slot found
    rw [List.any_cons, ih, List.map_cons, List.map_cons, List.zip_cons_cons, List.any_cons,
      ArrayRef.isNullAt, typed, value]

theorem joinKeys_ok {on : List (Expr F)} {encoder : Option RowKeyEncoder} {batch : RecordBatch F}
    {next : RowKeyEncoder} {keys : List (EncodedKey F × Bool)}
    (done : joinKeys on encoder batch = .ok (next, keys)) :
    (∀ known, encoder = some known → next = known) ∧ Reads on (some next) batch ∧
      keys = batch.rows.map fun row =>
        ((keyedRow on batch.schema row).key, (keyedRow on batch.schema row).seesNull) := by
  simp only [joinKeys, bind_ok, lift_ok, pure_eq_ok] at done
  obtain ⟨arrays, evaluated, encoded, read, same⟩ := done
  obtain ⟨rfl, rfl⟩ := Prod.mk.inj same
  have ⟨typed, _, known⟩ := keys_ok.mp ⟨arrays, evaluated, read⟩
  refine ⟨?_, ⟨_, rfl, typed⟩, ?_⟩
  · rintro known rfl
    rfl
  · subst known
    refine List.ext_getElem (by simp) fun index first second => ?_
    have inside : index < batch.rows.length := by simpa using second
    have present : batch.rows[index]? = some batch.rows[index] := List.getElem?_eq_getElem inside
    simp only [List.getElem_map, List.getElem_zipIdx, Nat.zero_add]
    rw [keyHasNull_eq (mapM_ok.mp evaluated) present]
    rfl

end

section

def entryOf (keyed : KeyedRow F) : (EncodedKey F × Bool) × Row F := ((keyed.key, keyed.seesNull), keyed.row)

def builtFrom (rights : List (KeyedRow F)) : Build F :=
  (rights.filter (!·.seesNull)).map fun right => (right.key, scalars right.row)

theorem builtFrom_append (first second : List (KeyedRow F)) :
    builtFrom (first ++ second) = builtFrom first ++ builtFrom second := by
  simp only [builtFrom, List.filter_append, List.map_append]

variable {batch : RecordBatch F}

theorem buildRow_ok {build next : Build F} {right : KeyedRow F} (member : right.row ∈ batch.rows)
    (done : buildRow batch build (entryOf right) = .ok next) : next = build ++ builtFrom [right] := by
  unfold buildRow at done
  split at done
  next seen =>
    have seen : right.seesNull = true := seen
    rw [← pure_eq_ok.mp done]
    simp [builtFrom, seen]
  next unseen =>
    have unseen : right.seesNull = false := Bool.not_eq_true _ ▸ unseen
    obtain ⟨read, scalar, same⟩ := bind_ok.mp done
    rw [← pure_eq_ok.mp same, scalarRow_ok member scalar]
    simp [builtFrom, unseen, entryOf]

theorem buildRows_ok {rights : List (KeyedRow F)} (members : ∀ right ∈ rights, right.row ∈ batch.rows)
    {build next : Build F} (done : (rights.map entryOf).foldlM (buildRow batch) build = .ok next) :
    next = build ++ builtFrom rights := by
  induction rights generalizing build with
  | nil =>
    cases done
    exact (List.append_nil _).symm
  | cons right rest ih =>
    have ⟨here, later⟩ := List.forall_mem_cons.mp members
    obtain ⟨middle, stepped, done⟩ := bind_ok.mp done
    rw [ih later done, buildRow_ok here stepped, List.append_assoc, ← builtFrom_append]
    rfl

variable [ArrowKernels F]

theorem keys_zip_rows {on : List (Expr F)} {keys : List (EncodedKey F × Bool)}
    (read : keys = batch.rows.map fun row =>
      ((keyedRow on batch.schema row).key, (keyedRow on batch.schema row).seesNull)) :
    keys.zip batch.rows = (keyedRows on [batch]).map entryOf := by
  subst read
  rw [keyedRows_singleton, List.map_map]
  refine List.ext_getElem (by simp) fun index first second => ?_
  simp [entryOf, keyedRow]

theorem rows_of_batch {on : List (Expr F)} : ∀ keyed ∈ keyedRows on [batch], keyed.row ∈ batch.rows := by
  intro keyed member
  rw [keyedRows_singleton] at member
  obtain ⟨row, inside, rfl⟩ := List.mem_map.mp member
  exact inside

theorem reads_next {other : List (Expr F)} {encoder : Option RowKeyEncoder} {next : RowKeyEncoder}
    (kept : ∀ known, encoder = some known → next = known) (reads : Reads other encoder batch) :
    Reads other (some next) batch := by
  obtain ⟨types, known, typed⟩ := reads
  exact ⟨types, congrArg some (kept _ known), typed⟩

theorem buildBatch_ok {rightOn : List (Expr F)} {state next : Option RowKeyEncoder × Build F}
    (done : buildBatch rightOn state batch = .ok next) :
    (∀ other, Reads rightOn state.1 other → Reads rightOn next.1 other) ∧ Reads rightOn next.1 batch ∧
      next.2 = state.2 ++ builtFrom (keyedRows rightOn [batch]) := by
  simp only [buildBatch, bind_ok, lift_ok, pure_eq_ok] at done
  obtain ⟨⟨encoder, keys⟩, read, build, built, rfl⟩ := done
  have ⟨kept, reads, known⟩ := joinKeys_ok read
  rw [keys_zip_rows known] at built
  exact ⟨fun other => reads_next kept, reads, buildRows_ok rows_of_batch built⟩

end

section

variable [ArrowKernels F] {joinType : JoinType} {rightWidth : Nat}

def probed (joinType : JoinType) (rightWidth : Nat) (lefts rights : List (KeyedRow F)) : List (Row F) :=
  NestedLoop.join KeyedRow.finds (fun left right => left.row ++ right.row)
    (fun left => if joinType = .left then [left.row ++ List.replicate rightWidth .null] else [])
    lefts rights

theorem builtFrom_find {left : KeyedRow F} (unseen : left.seesNull = false) (rights : List (KeyedRow F)) :
    (builtFrom rights).filter (·.1 = left.key) =
      (rights.filter left.finds).map fun right => (right.key, scalars right.row) := by
  rw [builtFrom, List.filter_map, List.filter_filter]
  refine congrArg _ (List.filter_congr fun right _ => ?_)
  simp [KeyedRow.finds, unseen, eq_comm]

variable {batch : RecordBatch F} {rights : List (KeyedRow F)}

theorem probeRow_ok {left : KeyedRow F} (member : left.row ∈ batch.rows)
    {output next : List (List (ScalarValue F))}
    (done : probeRow joinType rightWidth (builtFrom rights) batch output (entryOf left) = .ok next) :
    next = output ++ (probed joinType rightWidth [left] rights).map scalars := by
  obtain ⟨read, scalar, done⟩ := bind_ok.mp done
  obtain rfl := scalarRow_ok member scalar
  have alone : (if joinType = .left then
        (pure (output ++ [scalars left.row ++ List.replicate rightWidth .null]) : Except SparkXError _)
      else pure output) = .ok next →
      next = output ++ (if joinType = .left then [left.row ++ List.replicate rightWidth .null] else []).map scalars := by
    intro done
    split at done
    next outer =>
      rw [← pure_eq_ok.mp done, if_pos outer]
      simp [scalars, Value.scalar]
    next inner =>
      rw [← pure_eq_ok.mp done, if_neg inner]
      exact (List.append_nil _).symm
  rw [probed, NestedLoop.join, List.flatMap_singleton, NestedLoop.piece_map]
  cases seen : left.seesNull with
  | true =>
    have none : rights.filter left.finds = [] :=
      List.filter_eq_nil_iff.mpr fun right _ => by simp [KeyedRow.finds, seen]
    rw [none]
    exact alone (by simpa [entryOf, seen] using done)
  | false =>
    have lookup := builtFrom_find seen rights
    simp only [entryOf, lookup, seen] at done
    cases found : rights.filter left.finds with
    | nil => exact alone (by simpa [found] using done)
    | cons first rest =>
      rw [found] at done
      rw [← pure_eq_ok.mp done]
      simp [NestedLoop.piece, scalars]

theorem probeRows_ok {lefts : List (KeyedRow F)} (members : ∀ left ∈ lefts, left.row ∈ batch.rows)
    {output next : List (List (ScalarValue F))}
    (done : (lefts.map entryOf).foldlM (probeRow joinType rightWidth (builtFrom rights) batch) output = .ok next) :
    next = output ++ (probed joinType rightWidth lefts rights).map scalars := by
  induction lefts generalizing output with
  | nil =>
    cases done
    exact (List.append_nil _).symm
  | cons left rest ih =>
    have ⟨here, later⟩ := List.forall_mem_cons.mp members
    obtain ⟨middle, stepped, done⟩ := bind_ok.mp done
    rw [ih later done, probeRow_ok here stepped, List.append_assoc, ← List.map_append]
    exact congrArg (fun rows => output ++ rows.map scalars) (NestedLoop.join_append _ _ _ [left] rest rights).symm

theorem probeBatch_ok {leftOn : List (Expr F)}
    {state next : Option RowKeyEncoder × List (List (ScalarValue F))}
    (done : probeBatch leftOn joinType rightWidth (builtFrom rights) state batch = .ok next) :
    (∀ (on : List (Expr F)) (other : RecordBatch F), Reads on state.1 other → Reads on next.1 other) ∧
      Reads leftOn next.1 batch ∧
      next.2 = state.2 ++ (probed joinType rightWidth (keyedRows leftOn [batch]) rights).map scalars := by
  simp only [probeBatch, bind_ok, lift_ok, pure_eq_ok] at done
  obtain ⟨⟨encoder, keys⟩, read, output, ran, rfl⟩ := done
  have ⟨kept, reads, known⟩ := joinKeys_ok read
  rw [keys_zip_rows known] at ran
  exact ⟨fun on other => reads_next kept, reads, probeRows_ok rows_of_batch ran⟩

end

section

variable [FloatOps F]

theorem scalarColumns_ok {schema : Schema} {rows : List (List (ScalarValue F))}
    (full : ∀ row ∈ rows, row.length = schema.fields.length) {arrays : List (ArrayRef F)}
    (built : ((schema.fields.zipIdx.map fun entry => (entry.1, rows.filterMap (·[entry.2]?))).mapM
      fun column => scalarsToArray column.2 column.1.dataType : Except SparkXError _) = .ok arrays)
    {output : RecordBatch F} (made : RecordBatch.tryNew schema arrays = .ok output) :
    output.schema = schema ∧ (∀ dataType ∈ schema.types, dataType.isBuildable = true) ∧
      output.rows = rows.map fun row => (schema.types.zip row).map fun slot => slotOf slot.1 slot.2 := by
  have column (index : Nat) (inside : index < schema.fields.length) (dataType : DataType) :
      (rows.filterMap (·[index]?)).map (slotOf dataType) =
        rows.map fun row => slotOf dataType (row.getD index .null) := by
    rw [← List.filterMap_eq_map, List.filterMap_filterMap, ← List.filterMap_eq_map]
    refine List.filterMap_congr fun row member => ?_
    simp [List.getElem?_eq_getElem ((full row member).symm ▸ inside)]
  have arraysOf := List.forall₂_map_left_iff.mp (mapM_ok.mp built)
  let sources : List (DataType × (List (ScalarValue F) → Value F)) := schema.fields.zipIdx.map fun entry =>
    (entry.1.dataType, fun row => slotOf entry.1.dataType (row.getD entry.2 .null))
  have computed : List.Forall₂ (fun source array => array.dataType = source.1 ∧
      array.values = rows.map source.2) sources arrays := by
    refine List.forall₂_map_left_iff.mpr (forall₂_imp_mem (fun entry array member here => ?_) arraysOf)
    have ⟨_, typed, values⟩ := scalarsToArray_ok.mp here
    have inside := (List.getElem?_eq_some_iff.mp (List.mem_zipIdx_iff_getElem?.mp member)).1
    exact ⟨typed, values.trans (column entry.2 inside _)⟩
  obtain ⟨_, _, declared, same⟩ := (tryNew_columns computed).mp made
  refine ⟨declared, fun dataType member => ?_, same.trans (List.map_congr_left fun row member => ?_)⟩
  · obtain ⟨field, inside, rfl⟩ := List.mem_map.mp member
    obtain ⟨index, present⟩ := List.mem_iff_getElem?.mp inside
    obtain ⟨_, _, here⟩ := forall₂_item arraysOf (List.mem_zipIdx_iff_getElem?.mpr present : (field, index) ∈ _)
    exact (scalarsToArray_ok.mp here).1
  · have wide := full row member
    refine List.ext_getElem (by simp [sources, Schema.types, wide]) fun index first second => ?_
    have inside : index < row.length := by simpa [sources, wide] using first
    simp [sources, Schema.types, List.getElem?_eq_getElem inside]

theorem slots_scalars {types : List DataType} (buildable : ∀ dataType ∈ types, dataType.isBuildable = true)
    {row : Row F} (typed : List.Forall₂ (fun dataType value => value.hasType dataType = true) types row)
    (stored : ∀ value ∈ row, value.Stored) :
    (types.zip (scalars row)).map (fun slot => slotOf slot.1 slot.2) = row := by
  induction typed with
  | nil => rfl
  | cons here _ ih =>
    have ⟨built, builds⟩ := List.forall_mem_cons.mp buildable
    have ⟨kept, keeps⟩ := List.forall_mem_cons.mp stored
    rw [scalars, List.map_cons, List.zip_cons_cons, List.map_cons, Value.slotOf_scalar built here kept]
    exact congrArg _ (ih builds keeps)

end

section

variable [ArrowKernels F] {leftBatches rightBatches : List (RecordBatch F)} {joinType : JoinType}
  {leftOn rightOn : List (Expr F)} {schema : Schema} {leftTypes rightTypes : List DataType}

-- The batches of a side have its columns, and `f32` values in their `Float32` columns.
def HasTypes (types : List DataType) (batches : List (RecordBatch F)) : Prop :=
  ∀ batch ∈ batches, batch.schema.types = types ∧ ∀ row ∈ batch.rows, ∀ value ∈ row, value.Stored

theorem HasTypes.typed {types : List DataType} {batches : List (RecordBatch F)} (has : HasTypes types batches)
    {on : List (Expr F)} {keyed : KeyedRow F} (member : keyed ∈ keyedRows on batches) :
    List.Forall₂ (fun dataType value => value.hasType dataType = true) types keyed.row ∧
      ∀ value ∈ keyed.row, value.Stored := by
  obtain ⟨batch, listed, row, inside, rfl⟩ := mem_keyedRows.mp member
  obtain ⟨rfl, stored⟩ := has batch listed
  exact ⟨List.forall₂_map_left_iff.mpr ((batch.typed row inside).imp fun _ _ admitted => admitted.1),
    stored row inside⟩

theorem length_of_hasTypes {types : List DataType} {batches : List (RecordBatch F)} (has : HasTypes types batches)
    {batch : RecordBatch F} (member : batch ∈ batches) : batch.schema.fields.length = types.length := by
  rw [← (has batch member).1, Schema.types, List.length_map]

theorem probed_width (lefts : HasTypes leftTypes leftBatches) (rights : HasTypes rightTypes rightBatches)
    (declared : schema.types = leftTypes ++ rightTypes) (keyed : List (KeyedRow F)) :
    probed joinType ((rightBatches.head?.map (·.schema.fields.length)).getD
        (schema.fields.length - (leftBatches.head?.map (·.schema.fields.length)).getD 0))
        (keyedRows leftOn leftBatches) keyed =
      probed joinType rightTypes.length (keyedRows leftOn leftBatches) keyed := by
  have total : schema.fields.length = leftTypes.length + rightTypes.length := by
    rw [← List.length_append, ← declared, Schema.types, List.length_map]
  cases leftBatches with
  | nil => rfl
  | cons first _ =>
    have left := length_of_hasTypes lefts (List.mem_cons_self (a := first))
    cases rightBatches with
    | nil =>
      have width : schema.fields.length - first.schema.fields.length = rightTypes.length := by omega
      exact congrArg (probed joinType · _ keyed) width
    | cons other _ =>
      have right := length_of_hasTypes rights (List.mem_cons_self (a := other))
      exact congrArg (probed joinType · _ keyed) right

theorem building_ok {encoder : Option RowKeyEncoder} {build : Build F}
    (done : rightBatches.foldlM (buildBatch rightOn) (none, []) = .ok (encoder, build)) :
    (∀ batch ∈ rightBatches, Reads rightOn encoder batch) ∧ build = builtFrom (keyedRows rightOn rightBatches) := by
  refine foldlM_induct (fun seen state => (∀ batch ∈ seen, Reads rightOn state.1 batch) ∧
    state.2 = builtFrom (keyedRows rightOn seen)) ?_ ⟨nofun, rfl⟩ done
  intro seen batch state next ⟨reads, known⟩ stepped
  have ⟨kept, here, added⟩ := buildBatch_ok stepped
  constructor
  · intro other member
    rcases List.mem_append.mp member with earlier | last
    · exact kept other (reads other earlier)
    · rwa [List.mem_singleton.mp last]
  · rw [added, known, ← builtFrom_append, ← keyedRows_append]

theorem probing_ok {encoder last : Option RowKeyEncoder} {rightWidth : Nat} {keyed : List (KeyedRow F)}
    {rows : List (List (ScalarValue F))}
    (done : leftBatches.foldlM (probeBatch leftOn joinType rightWidth (builtFrom keyed)) (encoder, []) =
      .ok (last, rows)) (reads : ∀ batch ∈ rightBatches, Reads rightOn encoder batch) :
    (∀ batch ∈ rightBatches, Reads rightOn last batch) ∧ (∀ batch ∈ leftBatches, Reads leftOn last batch) ∧
      rows = (probed joinType rightWidth (keyedRows leftOn leftBatches) keyed).map scalars := by
  refine foldlM_induct (fun seen state => (∀ batch ∈ rightBatches, Reads rightOn state.1 batch) ∧
    (∀ batch ∈ seen, Reads leftOn state.1 batch) ∧
    state.2 = (probed joinType rightWidth (keyedRows leftOn seen) keyed).map scalars) ?_ ⟨reads, nofun, rfl⟩ done
  intro seen batch state next ⟨rights, lefts, known⟩ stepped
  have ⟨kept, here, added⟩ := probeBatch_ok stepped
  refine ⟨fun other member => kept _ other (rights other member), fun other member => ?_, ?_⟩
  · rcases List.mem_append.mp member with earlier | last
    · exact kept _ other (lefts other earlier)
    · rwa [List.mem_singleton.mp last]
  · rw [added, known, ← List.map_append, keyedRows_append]
    exact congrArg _ (NestedLoop.join_append _ _ _ _ _ _).symm

theorem typed_of_probed (lefts : HasTypes leftTypes leftBatches) (rights : HasTypes rightTypes rightBatches)
    {row : Row F} (member : row ∈ probed joinType rightTypes.length (keyedRows leftOn leftBatches)
      (keyedRows rightOn rightBatches)) :
    List.Forall₂ (fun dataType value => value.hasType dataType = true) (leftTypes ++ rightTypes) row ∧
      ∀ value ∈ row, value.Stored := by
  obtain ⟨left, listed, inside⟩ := List.mem_flatMap.mp member
  obtain ⟨leftTyped, leftStored⟩ := lefts.typed listed
  have extended {rest : Row F} (typed : List.Forall₂ (fun dataType value => value.hasType dataType = true) rightTypes rest)
      (stored : ∀ value ∈ rest, value.Stored) :
      List.Forall₂ (fun dataType value => value.hasType dataType = true) (leftTypes ++ rightTypes) (left.row ++ rest) ∧
        ∀ value ∈ left.row ++ rest, value.Stored :=
    ⟨List.rel_append leftTyped typed, fun value member => (List.mem_append.mp member).elim (leftStored value) (stored value)⟩
  cases found : (keyedRows rightOn rightBatches).filter left.finds with
  | nil =>
    rw [found, NestedLoop.piece] at inside
    split at inside
    next =>
      obtain rfl := List.mem_singleton.mp inside
      refine extended ?_ fun value null => ?_
      · rw [← List.map_const', List.forall₂_map_right_iff]
        exact List.forall₂_same.mpr fun dataType _ => Value.hasType_null dataType
      · rw [List.eq_of_mem_replicate null]
        trivial
    next => cases inside
  | cons first rest =>
    rw [found, NestedLoop.piece] at inside
    · obtain ⟨right, met, rfl⟩ := List.mem_map.mp inside
      obtain ⟨rightTyped, rightStored⟩ := rights.typed (List.mem_of_mem_filter (found ▸ met))
      exact extended rightTyped rightStored
    · simp

theorem hashJoin_rows {output : RecordBatch F}
    (done : hashJoin leftBatches rightBatches joinType leftOn rightOn schema = .ok output)
    (lefts : HasTypes leftTypes leftBatches) (rights : HasTypes rightTypes rightBatches)
    (declared : schema.types = leftTypes ++ rightTypes) :
    output.schema = schema ∧
      output.rows = probed joinType rightTypes.length (keyedRows leftOn leftBatches)
        (keyedRows rightOn rightBatches) ∧
      ∀ left ∈ keyedRows leftOn leftBatches, ∀ right ∈ keyedRows rightOn rightBatches,
        left.types = right.types := by
  simp only [hashJoin, bind_ok] at done
  obtain ⟨⟨encoder, build⟩, building, ⟨last, rows⟩, probing, done⟩ := done
  dsimp only at probing done
  obtain ⟨reads, rfl⟩ := building_ok building
  obtain ⟨rightReads, leftReads, rfl⟩ := probing_ok probing reads
  rw [probed_width lefts rights declared] at done
  split at done
  next => cases done
  next =>
    simp only [bind_ok, lift_ok] at done
    obtain ⟨arrays, built, made⟩ := done
    have typed {row : Row F} (inside : row ∈ probed joinType rightTypes.length (keyedRows leftOn leftBatches)
        (keyedRows rightOn rightBatches)) := typed_of_probed lefts rights inside
    have full : ∀ row ∈ (probed joinType rightTypes.length (keyedRows leftOn leftBatches)
        (keyedRows rightOn rightBatches)).map scalars, row.length = schema.fields.length := by
      intro scalar member
      obtain ⟨row, inside, rfl⟩ := List.mem_map.mp member
      rw [scalars, List.length_map, ← (typed inside).1.length_eq, ← declared, Schema.types, List.length_map]
    obtain ⟨same, buildable, kept⟩ := scalarColumns_ok full built made
    refine ⟨same, ?_, ?_⟩
    · rw [kept, List.map_map]
      refine (List.map_congr_left fun row inside => ?_).trans (List.map_id _)
      exact slots_scalars buildable (declared ▸ (typed inside).1) (typed inside).2
    · intro left leftListed right rightListed
      obtain ⟨leftBatch, leftMember, leftRow, _, rfl⟩ := mem_keyedRows.mp leftListed
      obtain ⟨rightBatch, rightMember, rightRow, _, rfl⟩ := mem_keyedRows.mp rightListed
      have here := leftReads leftBatch leftMember
      have there := rightReads rightBatch rightMember
      obtain ⟨types, rfl, _⟩ := id here
      rw [here.types, there.types]

-- No two rows join through a NULL of the type Null alone. A left join shows no difference either
-- where such a row meets exactly one row, all NULL.
def UntypedNullsApart (joinType : JoinType) (rightWidth : Nat) (lefts rights : List (KeyedRow F)) : Prop :=
  ∀ left ∈ lefts, rights.filter left.joinsUntyped = [] ∨
    joinType = .left ∧ (rights.filter left.joinsUntyped).map (·.row) = [List.replicate rightWidth .null]

theorem finds_eq {left : KeyedRow F} {rights : List (KeyedRow F)}
    (types : ∀ right ∈ rights, left.types = right.types) :
    rights.filter left.finds = rights.filter left.joins ∧ rights.filter left.joinsUntyped = [] ∨
      rights.filter left.finds = rights.filter left.joinsUntyped ∧ rights.filter left.joins = [] := by
  have sees {right : KeyedRow F} (member : right ∈ rights) (same : left.key = right.key) :
      right.seesNull = left.seesNull := by
    rw [KeyedRow.seesNull, KeyedRow.seesNull, types right member, same]
  cases null : left.hasNull with
  | false =>
    have unseen : left.seesNull = false := by
      cases seen : left.seesNull with
      | false => rfl
      | true => rw [KeyedRow.hasNull_of_seesNull seen] at null; cases null
    refine .inl ⟨List.filter_congr fun right member => ?_, List.filter_eq_nil_iff.mpr fun right _ => ?_⟩
    · by_cases same : left.key = right.key
      · simp [KeyedRow.finds, KeyedRow.joins, same, null, unseen, sees member same]
      · simp [KeyedRow.finds, KeyedRow.joins, same]
    · simp [KeyedRow.joinsUntyped, null]
  | true =>
    refine .inr ⟨List.filter_congr fun right member => ?_, List.filter_eq_nil_iff.mpr fun right _ => ?_⟩
    · by_cases same : left.key = right.key
      · simp [KeyedRow.finds, KeyedRow.joinsUntyped, same, null, sees member same]
      · simp [KeyedRow.finds, KeyedRow.joinsUntyped, same]
    · simp [KeyedRow.joins, null]

theorem hashJoin_eq_nestedLoopJoin {output : RecordBatch F}
    (done : hashJoin leftBatches rightBatches joinType leftOn rightOn schema = .ok output)
    (lefts : HasTypes leftTypes leftBatches) (rights : HasTypes rightTypes rightBatches)
    (declared : schema.types = leftTypes ++ rightTypes) :
    output.schema = schema ∧
      (output.rows = nestedLoopJoin joinType rightTypes.length (keyedRows leftOn leftBatches)
          (keyedRows rightOn rightBatches) ↔
        UntypedNullsApart joinType rightTypes.length (keyedRows leftOn leftBatches)
          (keyedRows rightOn rightBatches)) := by
  obtain ⟨same, rows, types⟩ := hashJoin_rows done lefts rights declared
  refine ⟨same, ?_⟩
  rw [rows]
  -- No piece of the output is shorter than that of the nested loop, so the pieces can be compared.
  refine (NestedLoop.flatMap_eq_iff fun left member => ?_).trans (forall₂_congr fun left member => ?_)
  · rcases finds_eq (types left member) with ⟨found, _⟩ | ⟨_, none⟩
    · rw [found]
    · rw [none]
      refine NestedLoop.alone_le_piece ?_ _
      split
      next => exact Nat.le_refl 1
      next => exact Nat.zero_le 1
  · rcases finds_eq (types left member) with ⟨found, none⟩ | ⟨found, none⟩
    · simp [found, none]
    · rw [found, none]
      cases (keyedRows rightOn rightBatches).filter left.joinsUntyped with
      | nil => simp
      | cons first rest =>
        rw [NestedLoop.piece, NestedLoop.piece]
        split
        next outer => simp [outer]
        next inner => simp [inner]
        simp

end

namespace JoinSample

-- Two sides with NULL keys, a duplicate key and narrow columns.

def left : RecordBatch ℚ :=
  { schema := { fields := [⟨"k", .uint32, true, .empty⟩, ⟨"v", .utf8, true, .empty⟩] }
    rows := [[.uint32 1, .utf8 "a"], [.null, .utf8 "b"], [.uint32 2, .utf8 "c"]]
    typed := by decide }

def right : RecordBatch ℚ :=
  { schema := { fields := [⟨"w", .float32, true, .empty⟩, ⟨"k", .uint32, true, .empty⟩] }
    rows := [[.float32 5, .uint32 1], [.float32 6, .null], [.float32 7, .uint32 1]]
    typed := by decide }

def output : Schema :=
  { fields := [⟨"k", .uint32, true, .empty⟩, ⟨"v", .utf8, true, .empty⟩, ⟨"w", .float32, true, .empty⟩,
      ⟨"right.k", .uint32, true, .empty⟩] }

theorem hasTypes (schema : Schema) {batches : List (RecordBatch ℚ)}
    (uniform : ∀ batch ∈ batches, batch.schema = schema) : HasTypes schema.types batches := by
  intro batch member
  refine ⟨congrArg Schema.types (uniform batch member), fun row _ value _ => ?_⟩
  cases value <;> trivial

end JoinSample

open JoinSample in
theorem hashJoin_eq_nestedLoopJoin_sample :
    ∃ batch, hashJoin [left] [right] .left [.column "k"] [.column "k"] output = .ok batch ∧
      batch.rows = nestedLoopJoin .left 2 (keyedRows [.column "k"] [left]) (keyedRows [.column "k"] [right]) ∧
      batch.rows = [[.uint32 1, .utf8 "a", .float32 5, .uint32 1], [.uint32 1, .utf8 "a", .float32 7, .uint32 1],
        [.null, .utf8 "b", .null, .null], [.uint32 2, .utf8 "c", .null, .null]] := by
  have joined : (hashJoin [left] [right] .left [.column "k"] [.column "k"] output).toOption.map (·.rows) =
      some [[.uint32 1, .utf8 "a", .float32 5, .uint32 1], [.uint32 1, .utf8 "a", .float32 7, .uint32 1],
        [.null, .utf8 "b", .null, .null], [.uint32 2, .utf8 "c", .null, .null]] := by decide +kernel
  obtain ⟨batch, computed, rows⟩ := Option.map_eq_some_iff.mp joined
  have done := Operator.toOption_eq_some.mp computed
  have apart : UntypedNullsApart .left 2 (keyedRows [.column "k"] [left]) (keyedRows [.column "k"] [right]) := by
    intro keyed member
    refine .inl ?_
    revert keyed
    decide +kernel
  have meets := hashJoin_eq_nestedLoopJoin done (hasTypes left.schema (by simp)) (hasTypes right.schema (by simp)) rfl
  exact ⟨batch, done, meets.2.mpr apart, rows⟩

open JoinSample in
theorem hashJoin_of_null_literals :
    (hashJoin [left] [right] .inner [.literal .null] [.literal .null] output).toOption.map (·.rows.length) = some 9 ∧
      nestedLoopJoin .inner 2 (keyedRows [.literal .null] [left]) (keyedRows [.literal .null] [right]) = [] := by
  decide +kernel

end SparkX
