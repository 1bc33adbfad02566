import SparkX.Runtime.Execution

set_option autoImplicit false

namespace SparkX

open Rowwise

variable {F : Type}

abbrev Row (F : Type) := List (Value F)

def rowsOf (batches : List (RecordBatch F)) : List (Row F) := batches.flatMap (·.rows)

@[simp] theorem rowsOf_nil : rowsOf ([] : List (RecordBatch F)) = [] := rfl

@[simp] theorem rowsOf_cons (batch : RecordBatch F) (rest : List (RecordBatch F)) :
    rowsOf (batch :: rest) = batch.rows ++ rowsOf rest := rfl

@[simp] theorem rowsOf_append (first second : List (RecordBatch F)) :
    rowsOf (first ++ second) = rowsOf first ++ rowsOf second := List.flatMap_append

theorem transpose_forall₂ {α β : Type} {related : α → β → Value F → Prop}
    {rows : List β} {sources : List α} {arrays : List (ArrayRef F)}
    (columns : List.Forall₂ (fun source array => List.Forall₂ (related source) rows array.values)
      sources arrays) :
    List.Forall₂ (fun row new => List.Forall₂ (related · row) sources new) rows
      (RecordBatch.transpose rows.length arrays) := by
  induction columns with
  | nil =>
    rw [RecordBatch.transpose, ← List.map_const']
    exact List.forall₂_map_right_iff.mpr (List.forall₂_same.mpr fun _ _ => .nil)
  | cons column _ ih =>
    rw [RecordBatch.transpose]
    refine (forall₂_zipWith column ih).imp ?_
    rintro row _ ⟨value, others, found, rest, rfl⟩
    exact .cons found rest

variable {schema : Schema}

theorem tryNew_columns {α : Type} {sources : List (DataType × (α → Value F))} {entries : List α}
    {arrays : List (ArrayRef F)}
    (computed : List.Forall₂ (fun source array => array.dataType = source.1 ∧
      array.values = entries.map source.2) sources arrays)
    {output : RecordBatch F} :
    RecordBatch.tryNew schema arrays = .ok output ↔
      sources ≠ [] ∧ sources.map (·.1) = schema.types ∧ output.schema = schema ∧
        output.rows = entries.map fun entry => sources.map (·.2 entry) := by
  have types : arrays.map (·.dataType) = sources.map (·.1) := by
    rw [← List.forall₂_eq_eq_eq, List.forall₂_map_left_iff, List.forall₂_map_right_iff]
    exact (computed.imp fun _ _ found => found.1).flip
  have empty : arrays = [] ↔ sources = [] := by
    rw [← List.length_eq_zero_iff, ← computed.length_eq, List.length_eq_zero_iff]
  have lengths {array : ArrayRef F} (member : array ∈ arrays) : array.length = entries.length := by
    obtain ⟨_, _, _, values⟩ := forall₂_mem computed member
    rw [ArrayRef.length, values, List.length_map]
  have rows : RecordBatch.transpose entries.length arrays =
      entries.map fun entry => sources.map (·.2 entry) := by
    have cells := @transpose_forall₂ F _ _ (fun source entry value => source.2 entry = value) entries sources arrays
      (computed.imp fun _ _ found => forall₂_eq.mpr found.2)
    exact forall₂_eq.mp (cells.imp fun entry row found => (forall₂_eq.mp found).symm)
  rw [RecordBatch.tryNew_ok, types, ne_eq, empty, ← rows]
  refine and_congr_right fun nonempty => and_congr_right fun _ => and_congr_right fun _ => ?_
  constructor
  · rintro ⟨length, equal, same⟩
    obtain ⟨array, member⟩ := List.exists_mem_of_ne_nil arrays (empty.not.mpr nonempty)
    rwa [← (equal array member).symm.trans (lengths member)]
  · exact fun same => ⟨entries.length, fun array member => lengths member, same⟩

end SparkX
