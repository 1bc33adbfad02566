import SparkX.Runtime.Exact
import SparkX.Runtime.Rows
import SparkX.Shared.Grouping
import SparkX.Shared.Summary

set_option autoImplicit false

namespace SparkX

open Rowwise

variable {F : Type}

variable {array : ArrayRef F} {keys : List (EncodedKey F)} {arrays : List (ArrayRef F)} {schema : Schema}

section

variable [FloatOps F]

def outputBatch (groupCount width : Nat) (schema : Schema)
    (found : List (EncodedKey F × List (ScalarValue F))) : Except Fault (RecordBatch F) := do
  let entries := found.insertionSort fun left right => compareKeys left.1 right.1 ≠ .gt
  let keyArrays ← RowKeyEncoder.decode ⟨schema.types.take groupCount⟩ (entries.map (·.1))
  let columns := (List.range width).map fun index => entries.map fun entry => (entry.2[index]?).getD .null
  let stateArrays ← ((columns.zip (schema.fields.drop groupCount)).mapM fun column =>
    scalarsToArray column.1 column.2.dataType : Except SparkXError _)
  RecordBatch.tryNew schema (keyArrays ++ stateArrays)

theorem outputBatch_map {σ : Type} (finish : σ → ScalarValue F) (groupCount width : Nat) (schema : Schema)
    (groups : List (EncodedKey F × List σ)) :
    outputBatch groupCount width schema (groups.map fun entry => (entry.1, entry.2.map finish)) = (do
      let entries := groups.insertionSort fun left right => compareKeys left.1 right.1 ≠ .gt
      let keyArrays ← RowKeyEncoder.decode ⟨schema.types.take groupCount⟩ (entries.map (·.1))
      let columns := (List.range width).map fun index =>
        entries.map fun entry => (entry.2[index]?).elim .null finish
      let stateArrays ← ((columns.zip (schema.fields.drop groupCount)).mapM fun column =>
        scalarsToArray column.1 column.2.dataType : Except SparkXError _)
      RecordBatch.tryNew schema (keyArrays ++ stateArrays)) := by
  have sorted := List.map_insertionSort (fun left right => compareKeys left.1 right.1 ≠ .gt)
    (fun left right => compareKeys left.1 right.1 ≠ .gt)
    (fun entry : EncodedKey F × List σ => (entry.1, entry.2.map finish)) groups
    fun _ _ _ _ => Iff.rfl
  have cell (states : List σ) (index : Nat) :
      ((states.map finish)[index]?).getD .null = (states[index]?).elim .null finish := by
    rw [List.getElem?_map]
    cases states[index]? <;> rfl
  simp only [outputBatch, ← sorted, List.map_map, Function.comp_def, cell]

-- `scalars_to_array` has arrays of these types.
def DataType.isBuildable : DataType → Bool
  | .null | .other _ => false
  | _ => true

theorem scalarsToArray_ok {scalars : List (ScalarValue F)} {dataType : DataType} :
    scalarsToArray scalars dataType = .ok array ↔
      dataType.isBuildable = true ∧ array.dataType = dataType ∧ array.values = scalars.map (slotOf dataType) := by
  cases dataType <;> simp [scalarsToArray, DataType.isBuildable, ArrayRef.ext_iff, eq_comm]

omit [FloatOps F] in
theorem RowKeyEncoder.decode_ok {types : List DataType} :
    RowKeyEncoder.decode ⟨types⟩ keys = .ok arrays ↔ (types = [] → ∀ key ∈ keys, key = []) ∧
      List.Forall₂ (fun entry array => array.dataType = entry.1 ∧
        array.values = keys.map (·.getD entry.2 .null)) types.zipIdx arrays := by
  have columns : types.zipIdx.mapM (fun entry : DataType × Nat =>
      expect (ArrayRef.ofValues entry.1 (keys.map (·.getD entry.2 .null))) "invalid encoded row") = .ok arrays ↔
      List.Forall₂ (fun entry array => array.dataType = entry.1 ∧
        array.values = keys.map (·.getD entry.2 .null)) types.zipIdx arrays := by
    simp only [mapM_ok, expect_ok, ArrayRef.ofValues_eq_some]
  rw [← columns, RowKeyEncoder.decode]
  split
  next none =>
    simp only [bind_ok, rejectIf_eq_ok, exists_const]
    refine and_congr_left fun _ => ?_
    obtain rfl : types = [] := none
    simp
  next some => exact ⟨fun found => ⟨fun none => absurd none some, found⟩, fun found => found.2⟩

def stateSlots (types : List DataType) (values : List (ScalarValue F)) : List (Value F) :=
  List.zipWith slotOf types values

theorem hasType_stateSlots {types : List DataType} {values : List (ScalarValue F)}
    (size : values.length = types.length) :
    List.Forall₂ (fun dataType value => value.hasType dataType = true) types (stateSlots types values) := by
  induction types generalizing values with
  | nil => exact .nil
  | cons dataType rest ih =>
    obtain ⟨value, others, rfl⟩ := List.exists_cons_of_length_eq_add_one size
    exact .cons (hasType_slotOf dataType value) (ih (Nat.succ.inj size))

def sortedGroups (found : List (EncodedKey F × List (ScalarValue F))) :
    List (EncodedKey F × List (ScalarValue F)) :=
  found.insertionSort fun left right => compareKeys left.1 right.1 ≠ .gt

theorem sortedGroups_perm (found : List (EncodedKey F × List (ScalarValue F))) : (sortedGroups found).Perm found :=
  List.perm_insertionSort _ found

-- The columns of the output, by their types and what they take from a group.

section

abbrev OutputColumn (F : Type) := DataType × (EncodedKey F × List (ScalarValue F) → Value F)

def keyColumns (F : Type) (types : List DataType) : List (OutputColumn F) :=
  types.zipIdx.map fun source => (source.1, fun entry => entry.1.getD source.2 .null)

def stateColumns (F : Type) [FloatOps F] (types : List DataType) : List (OutputColumn F) :=
  types.zipIdx.map fun source => (source.1, fun entry => slotOf source.1 (entry.2.getD source.2 .null))

theorem columns_types (types states : List DataType) :
    (keyColumns F types ++ stateColumns F states).map (·.1) = types ++ states := by
  simp [keyColumns, stateColumns, Function.comp_def]

variable {types : List DataType}

variable {entry : EncodedKey F × List (ScalarValue F)}

theorem columns_row {states : List DataType} (typed : KeyTyped types entry.1)
    (size : entry.2.length = states.length) :
    (keyColumns F types ++ stateColumns F states).map (·.2 entry) = entry.1 ++ stateSlots states entry.2 := by
  have keys : types.zipIdx.map (fun source => entry.1.getD source.2 .null) = entry.1 := by
    have width := typed.length_eq
    refine List.ext_getElem (by simp [width]) fun index first second => ?_
    simp [List.getElem?_eq_getElem second]
  have values : states.zipIdx.map (fun source => slotOf source.1 (entry.2.getD source.2 .null)) =
      stateSlots states entry.2 := by
    refine List.ext_getElem (by simp [stateSlots, size]) fun index first second => ?_
    have present : index < entry.2.length := by simp at first; omega
    simp [stateSlots, List.getElem?_eq_getElem present]
  rw [List.map_append, keyColumns, stateColumns, List.map_map, List.map_map]
  exact congrArg₂ _ keys values

variable {source : OutputColumn F}

omit [FloatOps F] in
theorem hasType_keyColumns (typed : KeyTyped types entry.1) (member : source ∈ keyColumns F types) :
    (source.2 entry).hasType source.1 = true := by
  obtain ⟨⟨dataType, index⟩, inside, rfl⟩ := List.mem_map.mp member
  obtain ⟨value, present, here⟩ := forall₂_getElem? typed (List.mem_zipIdx_iff_getElem?.mp inside)
  change (entry.1.getD index .null).hasType dataType = true
  rwa [List.getD_eq_getElem?_getD, present]

theorem hasType_stateColumns (entry : EncodedKey F × List (ScalarValue F))
    (member : source ∈ stateColumns F types) : (source.2 entry).hasType source.1 = true := by
  obtain ⟨_, _, rfl⟩ := List.mem_map.mp member
  exact hasType_slotOf _ _

omit [FloatOps F] in
theorem exists_columns {sources : List (OutputColumn F)} {entries : List (EncodedKey F × List (ScalarValue F))}
    (typed : ∀ source ∈ sources, ∀ entry ∈ entries, (source.2 entry).hasType source.1 = true) :
    ∃ arrays, List.Forall₂ (fun source (array : ArrayRef F) => array.dataType = source.1 ∧
      array.values = entries.map source.2) sources arrays := by
  refine forall₂_exists fun source member => ⟨⟨source.1, entries.map source.2, ?_⟩, rfl, rfl⟩
  intro value inside
  obtain ⟨entry, here, rfl⟩ := List.mem_map.mp inside
  exact typed source member entry here

omit [FloatOps F] in
theorem keyColumns_ok {types : List DataType} {entries : List (EncodedKey F × List (ScalarValue F))}
    (typed : ∀ entry ∈ entries, KeyTyped types entry.1) {arrays : List (ArrayRef F)} :
    RowKeyEncoder.decode ⟨types⟩ (entries.map (·.1)) = .ok arrays ↔
      List.Forall₂ (fun source array => array.dataType = source.1 ∧ array.values = entries.map source.2)
        (keyColumns F types) arrays := by
  have keyless : types = [] → ∀ key ∈ entries.map (·.1), key = [] := by
    rintro rfl key member
    obtain ⟨entry, inside, rfl⟩ := List.mem_map.mp member
    exact List.forall₂_nil_left_iff.mp (typed entry inside)
  rw [RowKeyEncoder.decode_ok, and_iff_right keyless, keyColumns, List.forall₂_map_left_iff]
  simp only [List.map_map, Function.comp_def]

theorem stateColumns_ok {fields : List Field} {entries : List (EncodedKey F × List (ScalarValue F))}
    {arrays : List (ArrayRef F)} :
    ((((List.range fields.length).map fun index => entries.map fun entry =>
          (entry.2[index]?).getD .null).zip fields).mapM fun column =>
        scalarsToArray column.1 column.2.dataType : Except SparkXError _) = .ok arrays ↔
      (∀ field ∈ fields, field.dataType.isBuildable = true) ∧
        List.Forall₂ (fun source array => array.dataType = source.1 ∧ array.values = entries.map source.2)
          (stateColumns F (fields.map (·.dataType))) arrays := by
  have paired : (fields.map (·.dataType)).zipIdx =
      ((List.range fields.length).zip fields).map fun column => (column.2.dataType, column.1) :=
    List.ext_getElem (by simp) (by simp)
  have buildable : (∀ field ∈ fields, field.dataType.isBuildable = true) ↔
      ∀ column ∈ (List.range fields.length).zip fields, column.2.dataType.isBuildable = true := by
    have second : ((List.range fields.length).zip fields).map (·.2) = fields := List.map_snd_zip (by simp)
    conv_lhs => rw [← second]
    exact List.forall_mem_map
  rw [buildable, stateColumns, paired, List.map_map, List.zip_map_left, mapM_ok,
    List.forall₂_map_left_iff, List.forall₂_map_left_iff, ← List.forall₂_and_left]
  simp only [scalarsToArray_ok, List.map_map, Function.comp_def, Prod.map_fst, Prod.map_snd, id_eq,
    List.getD_eq_getElem?_getD]

end

theorem outputBatch_ok {groupCount width : Nat} {schema : Schema}
    {found : List (EncodedKey F × List (ScalarValue F))} {output : RecordBatch F}
    (typed : ∀ entry ∈ found, KeyTyped (schema.types.take groupCount) entry.1 ∧ entry.2.length = width)
    (full : schema.fields.length = groupCount + width) :
    outputBatch groupCount width schema found = .ok output ↔
      (∀ dataType ∈ schema.types.drop groupCount, dataType.isBuildable = true) ∧ schema.fields ≠ [] ∧
        output.schema = schema ∧ output.rows = (sortedGroups found).map fun entry =>
          entry.1 ++ stateSlots (schema.types.drop groupCount) entry.2 := by
  have known (entry : EncodedKey F × List (ScalarValue F)) (member : entry ∈ sortedGroups found) :=
    typed entry ((List.perm_insertionSort _ found).mem_iff.mp member)
  have rest : (schema.fields.drop groupCount).length = width := by rw [List.length_drop]; omega
  have states : (schema.fields.drop groupCount).map (·.dataType) = schema.types.drop groupCount := List.map_drop
  have types : schema.types.take groupCount ++ schema.types.drop groupCount = schema.types :=
    List.take_append_drop ..
  have rows : (sortedGroups found).map (fun entry => (keyColumns F (schema.types.take groupCount) ++
        stateColumns F (schema.types.drop groupCount)).map (·.2 entry)) =
      (sortedGroups found).map fun entry => entry.1 ++ stateSlots (schema.types.drop groupCount) entry.2 := by
    refine List.map_congr_left fun entry member => columns_row (known entry member).1 ?_
    rw [(known entry member).2, ← states, List.length_map, rest]
  have nonempty : keyColumns F (schema.types.take groupCount) ++ stateColumns F (schema.types.drop groupCount) ≠ [] ↔
      schema.fields ≠ [] := by
    have listed := columns_types (F := F) (schema.types.take groupCount) (schema.types.drop groupCount)
    rw [types] at listed
    rw [ne_eq, ← List.map_eq_nil_iff (f := Prod.fst), listed, Schema.types, List.map_eq_nil_iff]
  have built {keyArrays stateArrays : List (ArrayRef F)}
      (keys : List.Forall₂ (fun source array => array.dataType = source.1 ∧
        array.values = (sortedGroups found).map source.2) (keyColumns F (schema.types.take groupCount)) keyArrays)
      (values : List.Forall₂ (fun source array => array.dataType = source.1 ∧
        array.values = (sortedGroups found).map source.2) (stateColumns F (schema.types.drop groupCount)) stateArrays) :
      RecordBatch.tryNew schema (keyArrays ++ stateArrays) = .ok output ↔ schema.fields ≠ [] ∧
        output.schema = schema ∧ output.rows = (sortedGroups found).map fun entry =>
          entry.1 ++ stateSlots (schema.types.drop groupCount) entry.2 := by
    rw [tryNew_columns (List.rel_append keys values), columns_types, types, rows, nonempty]
    simp only [true_and]
  have decoded {arrays : List (ArrayRef F)} := @keyColumns_ok F _ _ (fun entry member => (known entry member).1) arrays
  have stored {arrays : List (ArrayRef F)} := @stateColumns_ok F _ (schema.fields.drop groupCount)
    (sortedGroups found) arrays
  have buildable : (∀ field ∈ schema.fields.drop groupCount, field.dataType.isBuildable = true) ↔
      ∀ dataType ∈ schema.types.drop groupCount, dataType.isBuildable = true := by
    rw [← states, List.forall_mem_map]
  rw [rest, states, buildable] at stored
  have unfolded : outputBatch groupCount width schema found = (do
      let keyArrays ← RowKeyEncoder.decode ⟨schema.types.take groupCount⟩ ((sortedGroups found).map (·.1))
      let stateArrays ← ((((List.range width).map fun index => (sortedGroups found).map fun entry =>
        (entry.2[index]?).getD .null).zip (schema.fields.drop groupCount)).mapM fun column =>
          scalarsToArray column.1 column.2.dataType : Except SparkXError _)
      RecordBatch.tryNew schema (keyArrays ++ stateArrays)) := rfl
  simp only [unfolded, bind_ok, lift_ok, decoded, stored]
  constructor
  · rintro ⟨keyArrays, keys, stateArrays, ⟨fine, values⟩, made⟩
    exact ⟨fine, (built keys values).mp made⟩
  · rintro ⟨fine, made⟩
    obtain ⟨keyArrays, keys⟩ := exists_columns fun source member entry inside =>
      hasType_keyColumns (known entry inside).1 member
    obtain ⟨stateArrays, values⟩ := exists_columns fun source member entry (_ : entry ∈ sortedGroups found) =>
      hasType_stateColumns entry member
    exact ⟨keyArrays, keys, stateArrays, ⟨fine, values⟩, (built keys values).mpr made⟩

theorem exists_outputBatch {groupCount width : Nat} {found : List (EncodedKey F × List (ScalarValue F))}
    (typed : ∀ entry ∈ found, KeyTyped (schema.types.take groupCount) entry.1 ∧ entry.2.length = width)
    (full : schema.fields.length = groupCount + width)
    (nullable : ∀ field ∈ schema.fields, field.nullable = true)
    (buildable : ∀ dataType ∈ schema.types.drop groupCount, dataType.isBuildable = true)
    (nonempty : schema.fields ≠ []) : ∃ output, outputBatch groupCount width schema found = .ok output := by
  refine ⟨⟨schema, _, fun row member => ?_⟩, (outputBatch_ok typed full).mpr ⟨buildable, nonempty, rfl, rfl⟩⟩
  obtain ⟨entry, inside, rfl⟩ := List.mem_map.mp member
  obtain ⟨keyTyped, size⟩ := typed entry ((List.perm_insertionSort _ found).mem_iff.mp inside)
  have states := @hasType_stateSlots F _ (schema.types.drop groupCount) entry.2
    (by rw [size, List.length_drop, Schema.types, List.length_map]; omega)
  have slots : List.Forall₂ (fun dataType (value : Value F) => value.hasType dataType = true)
      (schema.types.take groupCount ++ schema.types.drop groupCount) _ := List.rel_append keyTyped states
  rw [List.take_append_drop, Schema.types, List.forall₂_map_left_iff] at slots
  exact forall₂_imp_mem (fun field value known here => ⟨here, .inl (nullable field known)⟩) slots

theorem outputBatch_perm [OrderedFloats F] {groupCount width : Nat} {types : List DataType}
    {first second : List (EncodedKey F × List (ScalarValue F))}
    (typed : ∀ entry ∈ first, KeyTyped types entry.1) (distinct : (first.map (·.1)).Nodup)
    (same : first.Perm second) :
    outputBatch groupCount width schema first = outputBatch groupCount width schema second := by
  simp only [outputBatch, sortGroups_perm typed distinct same]

end

section

variable [ArrowKernels F]

abbrev AggregateSpec (F : Type) := AggregateFunction × Expr F × Bool

def keyIn (groupExprs : List (Expr F)) (schema : Schema) (row : Row F) : EncodedKey F :=
  groupExprs.map fun expr => (expr.valueIn schema row).getD .null

def argumentIn (schema : Schema) (expr : Expr F) (row : Row F) : Except SparkXError (ScalarValue F) :=
  match expr with
  | .wildcard => .ok (.boolean true)
  | expr => valueAt ((expr.typeIn schema).getD .null) ((expr.valueIn schema row).getD .null)

structure Readable (groupExprs arguments : List (Expr F)) (types : List DataType) (schema : Schema)
    (rows : List (Row F)) : Prop where
  keyTypes : groupExprs.map (·.typeIn schema) = types.map some
  keyValues : ∀ expr ∈ groupExprs, ∀ row ∈ rows, ∃ value, expr.valueIn schema row = some value
  arguments : ∀ expr ∈ arguments, expr ≠ .wildcard → (∃ dataType, expr.typeIn schema = some dataType) ∧
    ∀ row ∈ rows, ∃ value, expr.valueIn schema row = some value

def AggregateSpec.aggregator (schema : Schema) (spec : AggregateSpec F) :
    Aggregator (AggregateState F) (Row F) SparkXError (ScalarValue F) where
  fresh := .new spec.1 spec.2.2
  step state row := do state.update (← argumentIn schema spec.2.1 row)
  finish := AggregateState.finish

def keyed (groupExprs : List (Expr F)) (schema : Schema) (rows : List (Row F)) :
    List (EncodedKey F × Row F) :=
  rows.map fun row => (keyIn groupExprs schema row, row)

variable {types : List DataType}

omit [ArrowKernels F] in
theorem RowKeyEncoder.encode_ok {columns : List (ArrayRef F)} {rowCount : Nat} :
    RowKeyEncoder.encode ⟨types⟩ columns rowCount = .ok keys ↔ columns.map (·.dataType) = types ∧
      (∀ column ∈ columns, column.length = rowCount) ∧ RecordBatch.transpose rowCount columns = keys := by
  have columnless : types = [] → columns.map (·.dataType) = types → columns = [] := by
    rintro rfl none
    exact List.map_eq_nil_iff.mp none
  have lengths : (∀ column ∈ columns, column.length = columns.head?.elim rowCount ArrayRef.length) ∧
      columns.head?.elim rowCount ArrayRef.length = rowCount ↔ ∀ column ∈ columns, column.length = rowCount := by
    cases columns <;> grind
  rw [← lengths]
  simp only [RowKeyEncoder.encode]
  split <;> simp only [bind_ok, rejectIf_eq_ok, not_not, exists_const, pure_eq_ok, not_exists, not_and] <;> grind

omit [ArrowKernels F] in
theorem selectedKeys_ok {indices : List Nat} {types : List DataType} {batch : RecordBatch F}
    {keys : List (EncodedKey F)} {message : String} :
    (∃ columns, indices.mapM (fun index => expect (batch.column index) message) = .ok columns ∧
        RowKeyEncoder.encode ⟨types⟩ columns batch.numRows = .ok keys) ↔
      List.Forall₂ (fun index dataType => batch.schema.types[index]? = some dataType) indices types ∧
        batch.rows.map (fun row => indices.map (row.getD · .null)) = keys := by
  simp only [mapM_ok, expect_ok, RecordBatch.column_eq_some, RowKeyEncoder.encode_ok]
  have keys_eq {columns : List (ArrayRef F)}
      (read : List.Forall₂ (fun index (array : ArrayRef F) => array.values = batch.rows.map (·.getD index .null))
        indices columns) :
      RecordBatch.transpose batch.numRows columns = batch.rows.map fun row => indices.map (row.getD · .null) := by
    have cells := @transpose_forall₂ F _ _ (fun index (row : Row F) value => row.getD index .null = value) _ _ _
      (read.imp fun _ _ found => forall₂_eq.mpr found)
    exact forall₂_eq.mp (cells.imp fun row key found => (forall₂_eq.mp found).symm)
  constructor
  · rintro ⟨columns, read, rfl, lengths, rfl⟩
    refine ⟨List.forall₂_map_right_iff.mpr (read.imp fun _ _ found => found.1), ?_⟩
    exact (keys_eq (read.imp fun _ _ found => found.2)).symm
  · rintro ⟨typed, rfl⟩
    have each : ∀ index ∈ indices, ∃ array, batch.column index = some array := by
      intro index member
      obtain ⟨_, _, present⟩ := forall₂_item typed member
      have inside := (List.getElem?_eq_some_iff.mp present).1
      rw [Schema.types, List.length_map] at inside
      exact RecordBatch.exists_column inside
    obtain ⟨columns, found⟩ := forall₂_exists each
    have read := found.imp fun _ _ => RecordBatch.column_eq_some.mp
    refine ⟨columns, read, ?_, fun column member => ?_, keys_eq (read.imp fun _ _ found => found.2)⟩
    · refine forall₂_unique (fun _ _ _ here there => Option.some.inj (here.symm.trans there))
        (List.forall₂_map_right_iff.mpr ?_) typed
      exact read.imp fun _ _ found => found.1
    · obtain ⟨_, _, _, same⟩ := forall₂_mem read member
      rw [ArrayRef.length, same, List.length_map, RecordBatch.numRows]

variable {batch : RecordBatch F}

theorem values_eq_map {expr : Expr F} (evaluated : evaluate expr batch = .ok array) :
    array.values = batch.rows.map fun row => (expr.valueIn batch.schema row).getD .null := by
  obtain ⟨_, values⟩ := evaluate_eq_ok.mp evaluated
  refine forall₂_eq.mp (values.imp fun row value found => ?_)
  rw [found, Option.getD_some]

variable {groupExprs : List (Expr F)}

theorem transpose_eq_keys
    (evaluated : List.Forall₂ (fun expr array => evaluate expr batch = .ok array) groupExprs arrays) :
    RecordBatch.transpose batch.numRows arrays = batch.rows.map (keyIn groupExprs batch.schema) := by
  have columns : List.Forall₂ (fun expr array => List.Forall₂ (fun row value =>
      (expr.valueIn batch.schema row).getD .null = value) batch.rows array.values) groupExprs arrays :=
    evaluated.imp fun expr array found => forall₂_eq.mpr (values_eq_map found)
  refine forall₂_eq.mp ((transpose_forall₂ columns).imp fun row key found => ?_)
  exact (forall₂_eq.mp found).symm

theorem keys_ok :
    (∃ arrays, groupExprs.mapM (evaluate · batch) = .ok arrays ∧
        RowKeyEncoder.encode ⟨types⟩ arrays batch.numRows = .ok keys) ↔
      groupExprs.map (·.typeIn batch.schema) = types.map some ∧
        (∀ expr ∈ groupExprs, ∀ row ∈ batch.rows, ∃ value, expr.valueIn batch.schema row = some value) ∧
        batch.rows.map (keyIn groupExprs batch.schema) = keys := by
  have types_eq {arrays : List (ArrayRef F)} (evaluated : List.Forall₂ (fun expr array =>
      evaluate expr batch = .ok array) groupExprs arrays) :
      groupExprs.map (·.typeIn batch.schema) = (arrays.map (·.dataType)).map some := by
    rw [List.map_map, ← List.forall₂_eq_eq_eq, List.forall₂_map_left_iff, List.forall₂_map_right_iff]
    exact evaluated.imp fun _ _ found => (evaluate_eq_ok.mp found).1
  simp only [mapM_ok, RowKeyEncoder.encode_ok]
  constructor
  · rintro ⟨arrays, evaluated, rfl, _, rfl⟩
    refine ⟨types_eq evaluated, fun expr member row inside => ?_, (transpose_eq_keys evaluated).symm⟩
    obtain ⟨array, _, found⟩ := forall₂_item evaluated member
    obtain ⟨value, _, here⟩ := forall₂_item (evaluate_eq_ok.mp found).2 inside
    exact ⟨value, here⟩
  · rintro ⟨typed, valued, rfl⟩
    have each : ∀ expr ∈ groupExprs, ∃ array, evaluate expr batch = .ok array := by
      intro expr member
      have known : expr.typeIn batch.schema ∈ types.map some := typed ▸ List.mem_map_of_mem member
      obtain ⟨dataType, _, same⟩ := List.mem_map.mp known
      obtain ⟨array, evaluated, _⟩ := exists_evaluate.mpr ⟨same.symm, valued expr member⟩
      exact ⟨array, evaluated⟩
    obtain ⟨arrays, evaluated⟩ := forall₂_exists each
    refine ⟨arrays, evaluated, ?_, fun array member => ?_, transpose_eq_keys evaluated⟩
    · exact List.map_injective_iff.mpr (Option.some_injective _) ((types_eq evaluated).symm.trans typed)
    · obtain ⟨_, _, found⟩ := forall₂_mem evaluated member
      rw [ArrayRef.length, values_eq_map found, List.length_map, RecordBatch.numRows]

def argumentArray (batch : RecordBatch F) (expr : Expr F) : Except Fault (Option (ArrayRef F)) :=
  match expr with
  | .wildcard => return none
  | expr => some <$> evaluate expr batch

def argumentAt (index : Nat) : Option (ArrayRef F) → Except SparkXError (ScalarValue F)
  | none => .ok (.boolean true)
  | some array => valueAt array.dataType (array.values.getD index .null)

theorem argumentArray_ok {expr : Expr F} {slot : Option (ArrayRef F)} :
    argumentArray batch expr = .ok slot ↔ expr = .wildcard ∧ slot = none ∨
      expr ≠ .wildcard ∧ ∃ array, evaluate expr batch = .ok array ∧ some array = slot := by
  unfold argumentArray
  split
  next => simp [pure, Except.pure, eq_comm]
  next proper =>
    rw [map_eq_ok]
    constructor
    · exact fun found => .inr ⟨proper, found⟩
    · rintro (⟨wildcard, _⟩ | ⟨_, found⟩)
      · exact (proper wildcard).elim
      · exact found

variable {exprs : List (Expr F)}

theorem arguments_ok :
    (∃ arrays, exprs.mapM (argumentArray batch) = .ok arrays) ↔
      ∀ expr ∈ exprs, expr ≠ .wildcard → (∃ dataType, expr.typeIn batch.schema = some dataType) ∧
        ∀ row ∈ batch.rows, ∃ value, expr.valueIn batch.schema row = some value := by
  have evaluates (expr : Expr F) : (∃ array, evaluate expr batch = .ok array) ↔
      (∃ dataType, expr.typeIn batch.schema = some dataType) ∧
        ∀ row ∈ batch.rows, ∃ value, expr.valueIn batch.schema row = some value := by
    constructor
    · rintro ⟨array, evaluated⟩
      obtain ⟨typed, values⟩ := exists_evaluate.mp ⟨array, evaluated, rfl⟩
      exact ⟨⟨_, typed⟩, values⟩
    · rintro ⟨⟨dataType, typed⟩, values⟩
      obtain ⟨array, evaluated, _⟩ := exists_evaluate.mpr ⟨typed, values⟩
      exact ⟨array, evaluated⟩
  simp only [mapM_ok, ← evaluates]
  constructor
  · rintro ⟨arrays, pointwise⟩ expr member proper
    obtain ⟨slot, _, found⟩ := forall₂_item pointwise member
    rcases argumentArray_ok.mp found with ⟨rfl, _⟩ | ⟨_, array, evaluated, _⟩
    · exact absurd rfl proper
    · exact ⟨array, evaluated⟩
  · intro each
    refine forall₂_exists fun expr member => ?_
    by_cases wildcard : expr = .wildcard
    · exact ⟨none, argumentArray_ok.mpr (.inl ⟨wildcard, rfl⟩)⟩
    · obtain ⟨array, evaluated⟩ := each expr member wildcard
      exact ⟨some array, argumentArray_ok.mpr (.inr ⟨wildcard, array, evaluated, rfl⟩)⟩

theorem argumentAt_eq {arrays : List (Option (ArrayRef F))}
    (found : exprs.mapM (argumentArray batch) = .ok arrays) {index : Nat} (inside : index < batch.rows.length) :
    arrays.map (argumentAt index) = exprs.map fun expr => argumentIn batch.schema expr batch.rows[index] := by
  refine mapM_map (fun expr slot here => ?_) found
  rcases argumentArray_ok.mp here with ⟨rfl, rfl⟩ | ⟨proper, array, evaluated, rfl⟩
  · rfl
  · have typed := (evaluate_eq_ok.mp evaluated).1
    have argument : argumentIn batch.schema expr batch.rows[index] =
        valueAt ((expr.typeIn batch.schema).getD .null)
          ((expr.valueIn batch.schema batch.rows[index]).getD .null) := by
      unfold argumentIn
      split
      · exact absurd rfl proper
      · rfl
    rw [argument, typed, argumentAt, values_eq_map evaluated, Option.getD_some, List.getD_eq_getElem?_getD,
      List.getElem?_map, List.getElem?_eq_getElem inside, Option.map_some, Option.getD_some]

theorem aggregateRow_eq (specs : List (AggregateSpec F)) (schema : Schema) (groups : Groups F)
    (key : EncodedKey F) (row : Row F) :
    aggregateRow (specs.map fun spec => AggregateState.new spec.1 spec.2.2) groups key
        (specs.map fun spec => argumentIn schema spec.2.1 row) =
      Grouping.insert (specs.map fun spec => (spec.aggregator schema).fresh)
        (Aggregator.stepAll (AggregateSpec.aggregator schema) specs) groups (key, row) := by
  have swapped (states : List (AggregateState F)) :
      states.zip (specs.map fun spec => argumentIn schema spec.2.1 row) =
        (specs.zip states).map fun entry => (entry.2, argumentIn schema entry.1.2.1 row) := by
    induction specs generalizing states with
    | nil => simp
    | cons spec rest ih => cases states <;> simp [ih]
  have steps (states : List (AggregateState F)) :
      (states.zip (specs.map fun spec => argumentIn schema spec.2.1 row)).mapM
          (fun pair => do pair.1.update (← pair.2)) =
        Aggregator.stepAll (AggregateSpec.aggregator schema) specs states row := by
    rw [swapped, List.mapM_map]
    rfl
  simp only [aggregateRow, steps, Grouping.insert]
  rfl

theorem aggregateBatch_ok {specs : List (AggregateSpec F)} {groups next : Groups F} :
    aggregateBatch groupExprs specs ⟨types⟩ groups batch = .ok next ↔
      Readable groupExprs (specs.map (·.2.1)) types batch.schema batch.rows ∧
        (keyed groupExprs batch.schema batch.rows).foldlM (Grouping.insert
          (specs.map fun spec => (spec.aggregator batch.schema).fresh)
          (Aggregator.stepAll (AggregateSpec.aggregator batch.schema) specs)) groups = .ok next := by
  have unfolded : aggregateBatch groupExprs specs ⟨types⟩ groups batch = (do
      let groupArrays ← groupExprs.mapM (evaluate · batch)
      let aggregateArrays ← specs.mapM fun spec => argumentArray batch spec.2.1
      let keys ← RowKeyEncoder.encode ⟨types⟩ groupArrays batch.numRows
      keys.zipIdx.foldlM (fun groups entry =>
        (liftM (aggregateRow (specs.map fun spec => AggregateState.new spec.1 spec.2.2) groups entry.1
          (aggregateArrays.map (argumentAt entry.2))) : Except Fault (Groups F))) groups) := rfl
  -- Reading the arguments through the arrays is reading them in the rows.
  have folded {arrays : List (Option (ArrayRef F))}
      (found : (specs.map (·.2.1)).mapM (argumentArray batch) = .ok arrays) :
      (batch.rows.map (keyIn groupExprs batch.schema)).zipIdx.foldlM (fun groups entry =>
          aggregateRow (specs.map fun spec => AggregateState.new spec.1 spec.2.2) groups entry.1
            (arrays.map (argumentAt entry.2))) groups =
        (keyed groupExprs batch.schema batch.rows).foldlM (Grouping.insert
          (specs.map fun spec => (spec.aggregator batch.schema).fresh)
          (Aggregator.stepAll (AggregateSpec.aggregator batch.schema) specs)) groups := by
    have rows : (batch.rows.map (keyIn groupExprs batch.schema)).zipIdx.map
        (fun entry => (entry.1, arrays.map (argumentAt entry.2))) =
        (keyed groupExprs batch.schema batch.rows).map fun entry =>
          (entry.1, specs.map fun spec => argumentIn batch.schema spec.2.1 entry.2) := by
      refine List.ext_getElem (by simp [keyed]) fun index first second => ?_
      have inside : index < batch.rows.length := by simpa using first
      simp [keyed, argumentAt_eq found inside]
    calc
      _ = ((batch.rows.map (keyIn groupExprs batch.schema)).zipIdx.map
          (fun entry => (entry.1, arrays.map (argumentAt entry.2)))).foldlM (fun groups entry =>
            aggregateRow (specs.map fun spec => AggregateState.new spec.1 spec.2.2) groups entry.1
              entry.2) groups := by rw [List.foldlM_map]
      _ = _ := by
        rw [rows, List.foldlM_map]
        simp only [aggregateRow_eq]
  have mapped : (specs.mapM fun spec => argumentArray batch spec.2.1) =
      (specs.map (·.2.1)).mapM (argumentArray batch) := by
    rw [List.mapM_map]
    rfl
  simp only [unfolded, mapped, bind_ok, lift_ok, foldlM_lift_ok]
  constructor
  · rintro ⟨groupArrays, evaluated, arrays, read, keys, encoded, done⟩
    obtain ⟨typed, valued, rfl⟩ := keys_ok.mp ⟨groupArrays, evaluated, encoded⟩
    exact ⟨⟨typed, valued, arguments_ok.mp ⟨arrays, read⟩⟩, folded read ▸ done⟩
  · rintro ⟨⟨typed, valued, arguments⟩, done⟩
    obtain ⟨groupArrays, evaluated, encoded⟩ := keys_ok.mpr ⟨typed, valued, rfl⟩
    obtain ⟨arrays, read⟩ := arguments_ok.mpr arguments
    exact ⟨groupArrays, evaluated, arrays, read, _, encoded, (folded read).trans done⟩

def initialKeys (groupCount : Nat) : List (EncodedKey F) := if groupCount = 0 then [[]] else []

omit [ArrowKernels F] in
theorem nodup_initialKeys (groupCount : Nat) : (initialKeys groupCount : List (EncodedKey F)).Nodup := by
  unfold initialKeys
  split <;> simp

def aggregateRows (schema : Schema) (specs : List (AggregateSpec F)) (rows : List (Row F)) :
    Except SparkXError (List (ScalarValue F)) :=
  specs.mapM fun spec => (spec.aggregator schema).result rows

variable {batches : List (RecordBatch F)}

theorem readable_batches {arguments : List (Expr F)} :
    (∀ batch ∈ batches, Readable groupExprs arguments types schema batch.rows) ↔
      (batches ≠ [] → Readable groupExprs arguments types schema (rowsOf batches)) := by
  constructor
  · intro each nonempty
    obtain ⟨batch, member⟩ := List.exists_mem_of_ne_nil batches nonempty
    have here := each batch member
    refine ⟨here.keyTypes, fun expr inside row known => ?_, fun expr inside proper => ⟨?_, fun row known => ?_⟩⟩
    · obtain ⟨other, present, row⟩ := List.mem_flatMap.mp known
      exact (each other present).keyValues expr inside _ row
    · exact (here.arguments expr inside proper).1
    · obtain ⟨other, present, row⟩ := List.mem_flatMap.mp known
      exact ((each other present).arguments expr inside proper).2 _ row
  · intro all batch member
    have here := all (List.ne_nil_of_mem member)
    refine ⟨here.keyTypes, fun expr inside row known => ?_, fun expr inside proper => ⟨?_, fun row known => ?_⟩⟩
    · exact here.keyValues expr inside row (List.mem_flatMap.mpr ⟨batch, member, known⟩)
    · exact (here.arguments expr inside proper).1
    · exact (here.arguments expr inside proper).2 row (List.mem_flatMap.mpr ⟨batch, member, known⟩)

theorem hashAggregate_ok {scanned : Schema} (uniform : ∀ batch ∈ batches, batch.schema = scanned)
    {aggregateExprs : List (Expr F)} {output : RecordBatch F} :
    hashAggregate batches groupExprs aggregateExprs schema = .ok output ↔
      ∃ specs found, aggregateExprs.mapM aggregateSpec = .ok specs ∧
        (batches ≠ [] → Readable groupExprs (specs.map (·.2.1)) (schema.types.take groupExprs.length)
          scanned (rowsOf batches)) ∧
        Grouping.results (aggregateRows scanned specs) (initialKeys groupExprs.length)
          (keyed groupExprs scanned (rowsOf batches)) = .ok found ∧
        outputBatch groupExprs.length specs.length schema found = .ok output := by
  have initial (specs : List (AggregateSpec F)) : (if groupExprs = [] then
      [([], specs.map fun spec => AggregateState.new spec.1 spec.2.2)] else [] : Groups F) =
      (initialKeys groupExprs.length).map (·, specs.map fun spec => (spec.aggregator scanned).fresh) := by
    cases groupExprs <;> rfl
  have groups_ok (specs : List (AggregateSpec F)) (groups : Groups F) :
      batches.foldlM (aggregateBatch groupExprs specs ⟨schema.types.take groupExprs.length⟩)
          (if groupExprs = [] then
            [([], specs.map fun spec => AggregateState.new spec.1 spec.2.2)] else []) = .ok groups ↔
        (batches ≠ [] → Readable groupExprs (specs.map (·.2.1)) (schema.types.take groupExprs.length)
            scanned (rowsOf batches)) ∧
          (keyed groupExprs scanned (rowsOf batches)).foldlM (Grouping.insert
            (specs.map fun spec => (spec.aggregator scanned).fresh)
            (Aggregator.stepAll (AggregateSpec.aggregator scanned) specs))
            ((initialKeys groupExprs.length).map (·, specs.map fun spec => (spec.aggregator scanned).fresh)) =
              .ok groups := by
    have rows : keyed groupExprs scanned (rowsOf batches) =
        batches.flatMap fun batch => keyed groupExprs scanned batch.rows := List.map_flatMap
    rw [← readable_batches, initial, rows]
    refine foldlM_parts fun batch member groups next => ?_
    rw [aggregateBatch_ok, uniform batch member]
  -- The loop ends with its groups, and the rest of the function only sees them finished.
  have split : hashAggregate batches groupExprs aggregateExprs schema = (do
      let specs ← (aggregateExprs.mapM aggregateSpec : Except SparkXError _)
      let groups ← batches.foldlM (aggregateBatch groupExprs specs ⟨schema.types.take groupExprs.length⟩)
        (if groupExprs = [] then
          [([], specs.map fun spec => AggregateState.new spec.1 spec.2.2)] else [])
      outputBatch groupExprs.length specs.length schema
        (groups.map fun entry => (entry.1, entry.2.map AggregateState.finish))) := by
    simp only [outputBatch_map]
    rfl
  have finished (specs : List (AggregateSpec F)) (found : List (EncodedKey F × List (ScalarValue F))) :=
    @Aggregator.foldlM_insert_result _ _ _ _ _ (AggregateSpec.aggregator scanned) _ _ AggregateState.finish
      (fun _ => rfl) specs (initialKeys groupExprs.length) (keyed groupExprs scanned (rowsOf batches)) found
  unfold aggregateRows
  simp only [split, bind_ok, lift_ok, groups_ok, ← finished]
  grind

end

end SparkX
