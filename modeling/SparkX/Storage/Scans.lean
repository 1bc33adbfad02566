import SparkX.Runtime.Plan
import SparkX.Storage.Pruning

set_option autoImplicit false

-- The three kinds of tables and what a scan returns of them. A scan is asked for columns in some
-- order. Tables in memory and CSV files give them in that order. The reader of a Parquet file is
-- given a mask, which has no order, and returns the columns as they stand in the file.

namespace SparkX

open Rowwise

variable {F : Type}

-- A reader of a file format. It is told the columns in the order in which it returns them, cuts the
-- rows into batches, none of them empty, and fails where the file cannot be read.
structure FileReader (F : Type) where
  read : Schema → List (List (Value F)) → List Nat → Nat → Except SparkXError (List (RecordBatch F))
  emitted : Schema → List Nat → Schema
  emitted_fields : ∀ schema columns, (emitted schema columns).fields = columns.filterMap (schema.fields[·]?)
  schema_eq : ∀ {schema rows columns batchSize batches}, read schema rows columns batchSize = .ok batches →
    ∀ batch ∈ batches, batch.schema = emitted schema columns
  rows_eq : ∀ {schema rows columns batchSize batches}, read schema rows columns batchSize = .ok batches →
    batches.flatMap (·.rows) = rows.map fun row => columns.map (row.getD · .null)
  nonempty : ∀ {schema rows columns batchSize batches}, read schema rows columns batchSize = .ok batches →
    ∀ batch ∈ batches, batch.rows ≠ []

-- A CSV file with the schema inferred for it.
structure CsvTable (F : Type) where
  schema : Schema
  rows : List (List (Value F))

namespace CsvTable

def scanPartition (reader : FileReader F) (table : CsvTable F) (partition : Nat)
    (projection : Option (List Nat)) (batchSize : Nat) : Except SparkXError (List (RecordBatch F)) := do
  rejectIf (partition ≠ 0) (.execution s!"CSV source has no partition {partition}")
  -- `with_projection` takes the indices as a list and keeps its order.
  let columns := projection.getD (List.range table.schema.fields.length)
  reader.read table.schema table.rows columns batchSize

def provider (reader : FileReader F) (table : CsvTable F) : TableProvider F where
  schema := table.schema
  partitionCount := 1
  partitionMayMatch _ _ := .ok true
  scanPartition := table.scanPartition reader
  uniform _ _ :=
    ⟨_, fun _ _ scanned batch member => reader.schema_eq (check_ok.mp scanned).2 batch member⟩

end CsvTable

-- `ProjectionMask::roots`: one flag for each column of the file.
def ProjectionMask.roots (width : Nat) (indices : List Nat) : List Bool :=
  (List.range width).map (· ∈ indices)

def ProjectionMask.columns (mask : List Bool) : List Nat :=
  (List.range mask.length).filter (mask.getD · false)

structure RowGroup (F : Type) (width : Nat) where
  metadata : RowGroupMetaData F width
  rows : List (List (Value F))

structure ParquetTable (F : Type) where
  width : Nat
  schema : Schema
  parquetColumns : List (Option (Fin width))
  rowGroups : List (RowGroup F width)

namespace ParquetTable

def missingRowGroup (partition : Nat) : SparkXError :=
  .execution s!"Parquet source has no row group {partition}"

def partitionMayMatch [FloatOps F] (table : ParquetTable F) (partition : Nat) (filters : List (Expr F)) :
    Except SparkXError Bool := do
  let rowGroup ← okOr table.rowGroups[partition]? (missingRowGroup partition)
  return rowGroupMayMatch table.schema table.parquetColumns rowGroup.metadata filters

def columns (table : ParquetTable F) : Option (List Nat) → List Nat
  | none => List.range table.schema.fields.length
  | some indices => ProjectionMask.columns (ProjectionMask.roots table.schema.fields.length indices)

def scanPartition (reader : FileReader F) (table : ParquetTable F) (partition : Nat)
    (projection : Option (List Nat)) (batchSize : Nat) : Except SparkXError (List (RecordBatch F)) := do
  let rowGroup ← okOr table.rowGroups[partition]? (missingRowGroup partition)
  -- `ProjectionMask::roots` panics at an index outside of the file, and the caller finds a failed task.
  rejectIf (∃ index ∈ projection.getD [], table.schema.fields.length ≤ index) (.execution
    "scan task failed: index out of bounds")
  reader.read table.schema rowGroup.rows (table.columns projection) batchSize

def provider [FloatOps F] (reader : FileReader F) (table : ParquetTable F) : TableProvider F where
  schema := table.schema
  partitionCount := table.rowGroups.length
  partitionMayMatch := table.partitionMayMatch
  scanPartition := table.scanPartition reader
  uniform projection batchSize := by
    refine ⟨reader.emitted table.schema (table.columns projection), ?_⟩
    intro partition batches scanned batch member
    obtain ⟨rowGroup, _, read⟩ := bind_ok.mp scanned
    exact reader.schema_eq (check_ok.mp read).2 batch member

end ParquetTable

inductive Source (F : Type) where
  | memory (table : MemoryTable F)
  | csv (reader : FileReader F) (table : CsvTable F)
  | parquet (reader : FileReader F) (table : ParquetTable F)

namespace Source

variable [FloatOps F]

def provider : Source F → TableProvider F
  | .memory table => table.provider
  | .csv reader table => table.provider reader
  | .parquet reader table => table.provider reader

def contents : Source F → Nat → List (List (Value F))
  | .memory table, partition => (table.partitions[partition]?.getD []).flatMap (·.rows)
  | .csv _ table, _ => table.rows
  | .parquet _ table, partition => (table.rowGroups[partition]?.map (·.rows)).getD []

end Source

def Projects (schema : Schema) (rows : List (List (Value F))) (indices : List Nat)
    (batches : List (RecordBatch F)) : Prop :=
  (∀ batch ∈ batches, batch.schema.fields = (projectedSchema schema (some indices)).fields) ∧
    batches.flatMap (·.rows) = rows.map fun row => indices.map (row.getD · .null)

def SameColumn (schema : Schema) (rows : List (List (Value F))) (listed emitted : Nat) : Prop :=
  schema.fields[listed]? = schema.fields[emitted]? ∧
    ∀ row ∈ rows, row.getD listed .null = row.getD emitted .null

variable {indices : List Nat}

variable {schema : Schema}

theorem projectedSchema_eq_iff {columns : List Nat} (inside : ∀ index ∈ indices, index < schema.fields.length)
    (selected : ∀ index ∈ columns, index < schema.fields.length) :
    (projectedSchema schema (some columns)).fields = (projectedSchema schema (some indices)).fields ↔
      List.Forall₂ (fun listed emitted => schema.fields[listed]? = schema.fields[emitted]?) indices columns := by
  have present {list : List Nat} (inside : ∀ index ∈ list, index < schema.fields.length) :
      (list.filterMap (schema.fields[·]?)).map some = list.map (schema.fields[·]?) := by
    induction list with
    | nil => rfl
    | cons index rest ih =>
      have here := List.getElem?_eq_getElem (inside index List.mem_cons_self)
      rw [List.filterMap_cons, here, List.map_cons, List.map_cons, here,
        ih fun other member => inside other (List.mem_cons_of_mem _ member)]
  rw [← map_eq_map_iff, ← present inside, ← present selected, List.map_inj_right fun _ _ => Option.some.inj]
  exact eq_comm

variable {rows : List (List (Value F))} {batches : List (RecordBatch F)}

theorem projects_iff {columns : List Nat} (inside : ∀ index ∈ indices, index < schema.fields.length)
    (selected : ∀ index ∈ columns, index < schema.fields.length)
    (emits : Projects schema rows columns batches) (nonempty : ∀ batch ∈ batches, batch.rows ≠ []) :
    Projects schema rows indices batches ↔ rows = [] ∨ List.Forall₂ (SameColumn schema rows) indices columns := by
  obtain ⟨fields, values⟩ := emits
  have columnwise : List.Forall₂ (SameColumn schema rows) indices columns ↔ _ := forall₂_and_forall
  rw [columnwise, ← projectedSchema_eq_iff inside selected]
  simp only [← map_eq_map_iff]
  constructor
  · intro ⟨listed, picked⟩
    by_cases empty : rows = []
    · exact .inl empty
    -- Some batch holds a row, so the fields can be compared.
    obtain ⟨row, member⟩ := List.exists_mem_of_ne_nil rows empty
    have returned : indices.map (row.getD · .null) ∈ batches.flatMap (·.rows) :=
      picked ▸ List.mem_map.mpr ⟨row, member, rfl⟩
    obtain ⟨batch, inside, _⟩ := List.mem_flatMap.mp returned
    refine .inr ⟨(fields batch inside).symm.trans (listed batch inside), fun row member => ?_⟩
    exact List.map_inj_left.mp (picked.symm.trans values) row member
  · rintro (rfl | ⟨sameFields, sameValues⟩)
    · have none : batches = [] := by
        refine List.eq_nil_iff_forall_not_mem.mpr fun batch member => nonempty batch member ?_
        exact List.flatMap_eq_nil_iff.mp values batch member
      subst none
      exact ⟨nofun, rfl⟩
    · refine ⟨fun batch member => (fields batch member).trans sameFields, values.trans ?_⟩
      exact List.map_congr_left fun row member => (sameValues row member).symm

namespace FileReader

theorem projects (reader : FileReader F) {columns : List Nat} {batchSize : Nat}
    (read : reader.read schema rows columns batchSize = .ok batches) :
    Projects schema rows columns batches := by
  refine ⟨fun batch member => ?_, reader.rows_eq read⟩
  rw [reader.schema_eq read batch member, reader.emitted_fields]
  rfl

end FileReader

theorem MemoryTable.project_rows {batch projected : RecordBatch F}
    (done : batch.project indices = .ok projected) :
    projected.rows = batch.rows.map fun row => indices.map (row.getD · .null) := by
  unfold RecordBatch.project at done
  split at done
  · rw [← Except.ok.inj done]
  · cases done

theorem MemoryTable.projects (table : MemoryTable F) {partition : Nat} (batchSize : Nat)
    (scanned : table.scanPartition partition (some indices) batchSize = .ok batches) :
    Projects table.schema ((table.partitions[partition]?.getD []).flatMap (·.rows)) indices batches := by
  obtain ⟨stored, present, mapped⟩ := bind_ok.mp scanned
  have found := okOr_ok.mp present
  have uniform := table.uniform stored (List.mem_of_getElem? found)
  have pointwise := mapM_ok.mp mapped
  rw [found, Option.getD_some]
  clear mapped scanned present found
  induction pointwise with
  | nil => exact ⟨nofun, rfl⟩
  | cons here _ ih =>
    have ⟨fields, values⟩ := ih fun batch member => uniform batch (List.mem_cons_of_mem _ member)
    refine ⟨List.forall_mem_cons.mpr ⟨?_, fields⟩, ?_⟩
    · rw [project_schema here, uniform _ List.mem_cons_self]
      rfl
    · rw [List.flatMap_cons, List.flatMap_cons, List.map_append, values]
      rw [project_rows here]

theorem ProjectionMask.columns_roots (width : Nat) (indices : List Nat) :
    columns (roots width indices) = (List.range width).filter (· ∈ indices) := by
  unfold columns roots
  rw [List.length_map, List.length_range]
  refine List.filter_congr fun index member => ?_
  rw [List.getD_eq_getElem?_getD, List.getElem?_map, List.getElem?_range (List.mem_range.mp member)]
  rfl

namespace Source

variable [FloatOps F]

-- The columns are listed in the order in which the table returns them, or nobody can tell.
def ListsInOrder : Source F → Nat → List Nat → Prop
  | .parquet reader table, partition, indices =>
    (Source.parquet reader table).contents partition = [] ∨
      List.Forall₂ (SameColumn table.schema ((Source.parquet reader table).contents partition)) indices
        (table.columns (some indices))
  | _, _, _ => True

end Source

theorem scan_projects_iff [FloatOps F] (source : Source F) {partition batchSize : Nat} {indices : List Nat}
    {batches : List (RecordBatch F)} (inside : ∀ index ∈ indices, index < source.provider.schema.fields.length)
    (scanned : source.provider.scanPartition partition (some indices) batchSize = .ok batches) :
    Projects source.provider.schema (source.contents partition) indices batches ↔
      source.ListsInOrder partition indices := by
  cases source with
  | memory table => exact iff_of_true (table.projects batchSize scanned) trivial
  | csv reader table => exact iff_of_true (reader.projects (check_ok.mp scanned).2) trivial
  | parquet reader table =>
    obtain ⟨rowGroup, present, read⟩ := bind_ok.mp scanned
    have contents : (Source.parquet reader table).contents partition = rowGroup.rows := by
      rw [Source.contents, okOr_ok.mp present]
      rfl
    have selected : ∀ index ∈ table.columns (some indices), index < table.schema.fields.length := by
      intro index member
      rw [ParquetTable.columns, ProjectionMask.columns_roots] at member
      exact List.mem_range.mp (List.mem_filter.mp member).1
    rw [Source.ListsInOrder, contents]
    have read := (check_ok.mp read).2
    exact projects_iff inside selected (reader.projects read) (reader.nonempty read)

theorem ParquetTable.columns_of_increasing (table : ParquetTable F) (increasing : indices.Pairwise (· < ·))
    (inside : ∀ index ∈ indices, index < table.schema.fields.length) :
    table.columns (some indices) = indices := by
  rw [columns, ProjectionMask.columns_roots]
  have sorted : ((List.range table.schema.fields.length).filter (· ∈ indices)).Pairwise (· < ·) :=
    List.pairwise_lt_range.filter _
  have same : ((List.range table.schema.fields.length).filter (· ∈ indices)).Perm indices := by
    refine (List.perm_ext_iff_of_nodup (sorted.imp Nat.ne_of_lt) (increasing.imp Nat.ne_of_lt)).mpr fun index => ?_
    simp only [List.mem_filter, List.mem_range, decide_eq_true_eq, and_iff_right_iff_imp]
    exact inside index
  exact same.eq_of_pairwise (fun _ _ _ _ less more => absurd more (Nat.lt_asymm less)) sorted increasing

def FileReader.whole : FileReader F where
  emitted schema columns := { fields := columns.filterMap (schema.fields[·]?) }
  emitted_fields _ _ := rfl
  read schema rows columns _ :=
    if rows = [] then .ok []
    else ([·]) <$> RecordBatch.ofRows { fields := columns.filterMap (schema.fields[·]?) }
      (rows.map fun row => columns.map (row.getD · .null))
  schema_eq read batch member := by
    split at read
    · cases Except.ok.inj read ▸ member
    · obtain ⟨found, made, rfl⟩ := map_eq_ok.mp read
      rw [List.mem_singleton.mp member]
      exact (RecordBatch.ofRows_ok.mp made).1
  rows_eq read := by
    split at read
    next empty =>
      rw [← Except.ok.inj read, empty]
      rfl
    next =>
      obtain ⟨found, made, rfl⟩ := map_eq_ok.mp read
      rw [List.flatMap_singleton]
      exact (RecordBatch.ofRows_ok.mp made).2
  nonempty read batch member := by
    split at read
    next => cases Except.ok.inj read ▸ member
    next filled =>
      obtain ⟨found, made, rfl⟩ := map_eq_ok.mp read
      rw [List.mem_singleton.mp member, (RecordBatch.ofRows_ok.mp made).2]
      exact fun none => filled (List.map_eq_nil_iff.mp none)

-- A Parquet file with the columns `b` and `a`, in this order.
def swappedNames : Source ℚ := .parquet .whole
  { width := 2
    schema := { fields := [⟨"b", .uint64, true, .empty⟩, ⟨"a", .uint64, true, .empty⟩] }
    parquetColumns := [some 0, some 1]
    rowGroups := [⟨⟨1, fun _ => none⟩, [[.uint64 1, .uint64 2]]⟩] }

theorem scan_projects_in_file_order :
    ∃ batches, swappedNames.provider.scanPartition 0 (some [0, 1]) 1024 = .ok batches ∧
      Projects swappedNames.provider.schema (swappedNames.contents 0) [0, 1] batches := by
  have scanned : ∃ batches, swappedNames.provider.scanPartition 0 (some [0, 1]) 1024 = .ok batches :=
    ⟨_, rfl⟩
  obtain ⟨batches, scanned⟩ := scanned
  refine ⟨batches, scanned, (scan_projects_iff swappedNames (by decide) scanned).mpr (.inr ?_)⟩
  rw [ParquetTable.columns_of_increasing _ (by decide) (by decide)]
  exact List.forall₂_same.mpr fun _ _ => ⟨rfl, fun _ _ => rfl⟩

theorem scan_returns_file_order :
    ∃ batches, swappedNames.provider.scanPartition 0 (some [1, 0]) 1024 = .ok batches ∧
      batches.map (·.rows) = [[[.uint64 1, .uint64 2]]] ∧
      ¬Projects swappedNames.provider.schema (swappedNames.contents 0) [1, 0] batches := by
  refine ⟨_, rfl, rfl, fun projects => ?_⟩
  have swapped := projects.2
  revert swapped
  decide +kernel

end SparkX
