import SparkX.Runtime.Rows

set_option autoImplicit false

namespace SparkX

open Rowwise

variable {F : Type}

variable {stream : BatchStream F} {batches : List (RecordBatch F)}

theorem collect_ok : collect stream = .ok batches ↔ stream = batches.map .ok := by
  rw [collect, mapM_ok, ← List.forall₂_map_right_iff (f := Except.ok), List.forall₂_eq_eq_eq]

theorem take_rows_perm (batch : RecordBatch F) {indices : List Nat}
    (all : indices.Perm (List.range batch.numRows)) : (batch.take indices).rows.Perm batch.rows := by
  have found := all.filterMap (batch.rows[·]?)
  rw [RecordBatch.numRows, filterMap_range_getElem?] at found
  exact found

variable [ArrowKernels F]

theorem lexsortToIndices_ok {columns : List (SortColumn F)} {numRows : Nat} {limit : Option Nat}
    {indices : List Nat} :
    lexsortToIndices columns numRows limit = .ok indices ↔
      (columns ≠ [] ∧ ∀ column ∈ columns, ArrowKernels.canCompare F column.values.dataType = true) ∧
        ArrowKernels.sortIndices columns numRows limit = indices := by
  simp only [lexsortToIndices, bind_ok, rejectIf_eq_ok, exists_const, pure_eq_ok,
    List.length_eq_zero_iff, and_assoc]
  simp

def sortColumn (sort : SortExpr F) (batch : RecordBatch F) : Except Fault (SortColumn F) := do
  return { values := ← evaluate sort.expr batch
           descending := !sort.ascending
           nullsFirst := sort.nullsFirst }

-- What a sort asks of the batches it concatenates.
structure SortFits (exprs : List (SortExpr F)) (schema source : Schema) : Prop where
  types : source.types.take schema.fields.length = schema.types
  nonempty : exprs ≠ []
  comparable : ∀ sort ∈ exprs, ∃ dataType, sort.expr.typeIn schema = some dataType ∧
    ArrowKernels.canCompare F dataType = true

-- What a sort asks of a row.
structure SortTakes (exprs : List (SortExpr F)) (schema : Schema) (row : Row F) : Prop where
  admitted : schema.admits (row.take schema.fields.length)
  valued : ∀ sort ∈ exprs, ∃ value, sort.expr.valueIn schema (row.take schema.fields.length) = some value

variable {exprs : List (SortExpr F)} {schema source : Schema} {batches : List (RecordBatch F)}

theorem sortBatches_cons (some : batches ≠ []) : sortBatches exprs none schema batches = do
      let batch ← RecordBatch.concatBatches schema batches
      let columns ← exprs.mapM (sortColumn · batch)
      let indices ← lexsortToIndices columns batch.numRows none
      return batch.take indices := by
  rw [sortBatches, if_neg (by simpa using some)]
  rfl

theorem exists_sortBatches (some : batches ≠ []) (uniform : ∀ batch ∈ batches, batch.schema = source)
    (wide : schema.fields.length ≤ source.fields.length) (fits : SortFits exprs schema source)
    (takes : ∀ row ∈ rowsOf batches, SortTakes exprs schema row) :
    ∃ output, sortBatches exprs none schema batches = .ok output := by
  have typed : ∀ row ∈ (rowsOf batches).map (·.take schema.fields.length), schema.admits row := by
    intro row member
    obtain ⟨old, inside, rfl⟩ := List.mem_map.mp member
    exact (takes old inside).admitted
  let batch : RecordBatch F := ⟨schema, (rowsOf batches).map (·.take schema.fields.length), typed⟩
  have concatenated : RecordBatch.concatBatches schema batches = .ok batch := by
    refine RecordBatch.concatBatches_ok.mpr ⟨fun part member => ?_, rfl, rfl⟩
    rw [uniform part member]
    exact ⟨wide, fits.types⟩
  have each : ∀ sort ∈ exprs, ∃ column : SortColumn F, sortColumn sort batch = .ok column ∧
      ArrowKernels.canCompare F column.values.dataType = true := by
    intro sort listed
    obtain ⟨dataType, known, comparable⟩ := fits.comparable sort listed
    have valued : ∀ row ∈ batch.rows, ∃ value, sort.expr.valueIn schema row = Option.some value := by
      intro row member
      obtain ⟨old, inside, rfl⟩ := List.mem_map.mp member
      exact (takes old inside).valued sort listed
    obtain ⟨array, evaluated, rfl⟩ := exists_evaluate.mpr ⟨known, valued⟩
    exact ⟨⟨array, _, _⟩, bind_ok.mpr ⟨array, evaluated, rfl⟩, comparable⟩
  obtain ⟨columns, pointwise⟩ := forall₂_exists each
  have evaluated := mapM_ok.mpr (pointwise.imp fun _ _ column => column.1)
  rw [sortBatches_cons some]
  simp only [bind_ok, lift_ok, lexsortToIndices_ok, pure_eq_ok]
  refine ⟨_, batch, concatenated, columns, evaluated, _, ⟨⟨?_, ?_⟩, rfl⟩, rfl⟩
  · rintro rfl
    exact fits.nonempty (List.forall₂_nil_right_iff.mp pointwise)
  · intro column member
    obtain ⟨_, _, found⟩ := forall₂_mem pointwise member
    exact found.2

theorem sortBatches_nil : sortBatches exprs none schema [] = .ok (.newEmpty schema) := rfl

end SparkX
