import SparkX.Query.Value
import SparkX.Shared.Association

set_option autoImplicit false

-- A batch is kept by rows. Its width and the types of its slots are those of its schema, so
-- `column` and the row operations below need no checks of their own.

namespace SparkX

abbrev Metadata := Association String String

structure Field where
  name : String
  dataType : DataType
  nullable : Bool
  metadata : Metadata := .empty
deriving DecidableEq

structure Schema where
  fields : List Field
  metadata : Metadata := .empty
deriving DecidableEq

-- `name.rsplit('.').next()`
def unqualified (name : String) : String :=
  String.ofList (name.toList.reverse.takeWhile (· ≠ '.')).reverse

variable {index : Nat}

namespace Schema

def types (schema : Schema) : List DataType := schema.fields.map (·.dataType)

def positions (schema : Schema) (named : String → Bool) : List Nat :=
  (schema.fields.zipIdx.filter fun entry => named entry.1.name).map (·.2)

def ambiguousColumn (name : String) : SparkXError :=
  .planning s!"column '{name}' is ambiguous; qualify it with a table name or alias"

def resolveFieldIndex (schema : Schema) (name : String) : Except SparkXError Nat :=
  match schema.positions (· = name) with
  | [index] => .ok index
  | _ :: _ :: _ => .error (ambiguousColumn name)
  | [] =>
    -- A qualified name is never matched by its last part against qualified columns.
    if name.toList.contains '.' && schema.fields.any (·.name.toList.contains '.') then
      .error (.planning s!"column '{name}' does not exist")
    else
      match schema.positions (unqualified · = unqualified name) with
      | [index] => .ok index
      | _ :: _ :: _ => .error (ambiguousColumn name)
      | [] => .error (.planning s!"column '{name}' does not exist")

theorem positions_lt {schema : Schema} {named : String → Bool} (member : index ∈ schema.positions named) :
    index < schema.fields.length := by
  obtain ⟨⟨field, position⟩, found, rfl⟩ := List.mem_map.mp member
  have here := List.mem_zipIdx_iff_getElem?.mp (List.mem_filter.mp found).1
  exact (List.getElem?_eq_some_iff.mp here).1

theorem resolveFieldIndex_lt {schema : Schema} {name : String}
    (resolved : schema.resolveFieldIndex name = .ok index) : index < schema.fields.length := by
  have only {named : String → Bool} (found : schema.positions named = [index]) :
      index < schema.fields.length := positions_lt (found ▸ List.mem_singleton_self index)
  unfold resolveFieldIndex at resolved
  split at resolved
  next position found =>
    cases resolved
    exact only found
  next => cases resolved
  next =>
    split at resolved
    next => cases resolved
    next =>
      split at resolved
      next position found =>
        cases resolved
        exact only found
      next => cases resolved
      next => cases resolved

end Schema

section

variable {F : Type}

def Field.admits (field : Field) (value : Value F) : Prop :=
  value.hasType field.dataType = true ∧ (field.nullable = true ∨ value.isNull = false)

instance (field : Field) (value : Value F) : Decidable (field.admits value) :=
  inferInstanceAs (Decidable (_ ∧ _))

def Schema.admits (schema : Schema) (row : List (Value F)) : Prop :=
  List.Forall₂ Field.admits schema.fields row

instance (schema : Schema) (row : List (Value F)) : Decidable (schema.admits row) :=
  inferInstanceAs (Decidable (List.Forall₂ _ _ _))

variable {row : List (Value F)}

theorem Schema.admits_slot {schema : Schema} (admitted : schema.admits row) {field : Field}
    (present : schema.fields[index]? = some field) : field.admits (row.getD index .null) := by
  obtain ⟨fields, _⟩ := schema
  change List.Forall₂ Field.admits fields row at admitted
  induction admitted generalizing index with
  | nil => cases present
  | cons head rest ih =>
    cases index with
    | zero =>
      cases present
      exact head
    | succ index => exact ih present

theorem Schema.admits_project {schema : Schema} (admitted : schema.admits row) {indices : List Nat}
    (inside : ∀ index ∈ indices, index < schema.fields.length) :
    (Schema.mk (indices.filterMap (schema.fields[·]?)) schema.metadata).admits
      (indices.map (row.getD · .null)) := by
  induction indices with
  | nil => exact .nil
  | cons index rest ih =>
    have present := List.getElem?_eq_getElem (inside index (by simp))
    have later := ih fun other member => inside other (List.mem_cons_of_mem _ member)
    unfold Schema.admits at later ⊢
    rw [List.filterMap_cons, present]
    exact .cons (Schema.admits_slot admitted present) later

end

@[ext]
structure RecordBatch (F : Type) where
  schema : Schema
  rows : List (List (Value F))
  typed : ∀ row ∈ rows, schema.admits row

namespace RecordBatch

variable {F : Type}

def numRows (batch : RecordBatch F) : Nat := batch.rows.length

def column (batch : RecordBatch F) (index : Nat) : Option (ArrayRef F) :=
  match present : batch.schema.fields[index]? with
  | none => none
  | some field => some
    { dataType := field.dataType
      values := batch.rows.map (·.getD index .null)
      typed := by
        intro value member
        obtain ⟨row, inside, rfl⟩ := List.mem_map.mp member
        exact (Schema.admits_slot (batch.typed row inside) present).1 }

variable {batch : RecordBatch F}

theorem column_eq_some {array : ArrayRef F} :
    batch.column index = some array ↔ batch.schema.types[index]? = some array.dataType ∧
        array.values = batch.rows.map (·.getD index .null) := by
  unfold column
  rw [Schema.types, List.getElem?_map]
  split
  next absent => simp [absent]
  next field present =>
    cases array
    simp [present, eq_comm]

theorem exists_column (inside : index < batch.schema.fields.length) :
    ∃ array, batch.column index = some array := by
  unfold column
  split
  next absent =>
    rw [List.getElem?_eq_getElem inside] at absent
    cases absent
  next => exact ⟨_, rfl⟩

def select (batch : RecordBatch F) (rows : List (List (Value F)))
    (known : ∀ row ∈ rows, row ∈ batch.rows) : RecordBatch F :=
  { schema := batch.schema, rows, typed := fun row member => batch.typed row (known row member) }

def newEmpty (schema : Schema) : RecordBatch F :=
  { schema, rows := [], typed := nofun }

-- `batch.slice(0, length)`
def slice (batch : RecordBatch F) (length : Nat) : RecordBatch F :=
  batch.select (batch.rows.take length) fun _ member => List.mem_of_mem_take member

-- `take_record_batch`
def take (batch : RecordBatch F) (indices : List Nat) : RecordBatch F :=
  batch.select (indices.filterMap (batch.rows[·]?)) fun _ member => by
    obtain ⟨_, _, found⟩ := List.mem_filterMap.mp member
    exact List.mem_of_getElem? found

-- `filter_record_batch`: a null keeps its row out.
def filter (batch : RecordBatch F) (flags : List (Option Bool)) : RecordBatch F :=
  batch.select (((batch.rows.zip flags).filter (·.2 = some true)).map (·.1)) fun _ member => by
    obtain ⟨entry, kept, rfl⟩ := List.mem_map.mp member
    exact (List.of_mem_zip (List.mem_filter.mp kept).1).1

-- `batch.project(indices)`
def project (batch : RecordBatch F) (indices : List Nat) : Except SparkXError (RecordBatch F) :=
  if inside : ∀ index ∈ indices, index < batch.schema.fields.length then
    .ok
      { schema := ⟨indices.filterMap (batch.schema.fields[·]?), batch.schema.metadata⟩
        rows := batch.rows.map fun row => indices.map (row.getD · .null)
        typed := by
          intro row member
          obtain ⟨old, known, rfl⟩ := List.mem_map.mp member
          exact Schema.admits_project (batch.typed old known) inside }
  else .error (.arrow "Schema error: project index out of bounds")

def transpose : Nat → List (ArrayRef F) → List (List (Value F))
  | length, [] => List.replicate length []
  | length, array :: rest => List.zipWith (· :: ·) array.values (transpose length rest)

-- The last check on columns whose types agree with the schema: no null where none is declared.
def ofRows (schema : Schema) (rows : List (List (Value F))) : Except SparkXError (RecordBatch F) :=
  if typed : ∀ row ∈ rows, schema.admits row then .ok { schema, rows, typed }
  else .error (.arrow "Invalid argument error: Column is declared as non-nullable but contains null values")

variable {schema : Schema}

theorem ofRows_ok {rows : List (List (Value F))} :
    ofRows schema rows = .ok batch ↔ batch.schema = schema ∧ batch.rows = rows := by
  unfold ofRows
  split
  next typed =>
    rw [Except.ok.injEq, RecordBatch.ext_iff]
    exact and_congr eq_comm eq_comm
  next untyped =>
    simp only [reduceCtorEq, false_iff, not_and]
    rintro rfl rfl
    exact untyped batch.typed

def tryNew (schema : Schema) (arrays : List (ArrayRef F)) : Except SparkXError (RecordBatch F) := do
  rejectIf (arrays.length ≠ schema.fields.length) (.arrow
    "Invalid argument error: number of columns must match number of fields in schema")
  let first ← okOr arrays.head? (.arrow
    "Invalid argument error: must either specify a row count or at least one column")
  rejectIf (∃ array ∈ arrays, array.length ≠ first.length) (.arrow
    "Invalid argument error: all columns in a record batch must have the same length")
  rejectIf (arrays.map (·.dataType) ≠ schema.types) (.arrow
    "Invalid argument error: column types must match schema types")
  ofRows schema (transpose first.length arrays)

theorem tryNew_ok {arrays : List (ArrayRef F)} :
    tryNew schema arrays = .ok batch ↔ arrays ≠ [] ∧ arrays.map (·.dataType) = schema.types ∧
      batch.schema = schema ∧ ∃ length, (∀ array ∈ arrays, array.length = length) ∧
        batch.rows = transpose length arrays := by
  constructor
  · intro built
    obtain ⟨_, built⟩ := check_ok.mp built
    obtain ⟨first, head, built⟩ := bind_ok.mp built
    obtain ⟨equal, built⟩ := check_ok.mp built
    obtain ⟨types, built⟩ := check_ok.mp built
    rw [rejectIf_ok] at equal types
    obtain ⟨same, rows⟩ := ofRows_ok.mp built
    refine ⟨?_, by simpa using types, same, first.length, by simpa using equal, rows⟩
    rintro rfl
    cases head
  · rintro ⟨some, types, rfl, length, equal, rows⟩
    obtain ⟨first, rest, rfl⟩ := List.exists_cons_of_ne_nil some
    have lengths := congrArg List.length types
    rw [List.length_map, Schema.types, List.length_map] at lengths
    obtain rfl := equal first (by simp)
    refine check_ok.mpr ⟨rejectIf_ok.mpr (not_not.mpr lengths), bind_ok.mpr ⟨first, rfl, ?_⟩⟩
    refine check_ok.mpr ⟨rejectIf_ok.mpr (by simpa using equal), ?_⟩
    exact check_ok.mpr ⟨rejectIf_ok.mpr (not_not.mpr types), ofRows_ok.mpr ⟨rfl, rows⟩⟩

-- `concat_batches` reads as many columns of every batch as the schema has, and panics on a batch
-- with fewer.
def concatBatches (schema : Schema) (batches : List (RecordBatch F)) :
    Except Fault (RecordBatch F) := do
  let width := schema.fields.length
  rejectIf (∃ batch ∈ batches, batch.schema.fields.length < width) (Fault.panic "index out of bounds")
  rejectIf (∃ batch ∈ batches, batch.schema.types.take width ≠ schema.types) (Fault.error (.arrow
    "Invalid argument error: It is not possible to concatenate arrays of different data types"))
  ofRows schema ((batches.flatMap (·.rows)).map (·.take width))

theorem concatBatches_ok {batches : List (RecordBatch F)} :
    concatBatches schema batches = .ok batch ↔
      (∀ part ∈ batches, schema.fields.length ≤ part.schema.fields.length ∧
        part.schema.types.take schema.fields.length = schema.types) ∧
      batch.schema = schema ∧
        batch.rows = (batches.flatMap (·.rows)).map (·.take schema.fields.length) := by
  constructor
  · intro built
    obtain ⟨wide, built⟩ := check_ok.mp built
    obtain ⟨types, built⟩ := check_ok.mp built
    rw [rejectIf_ok] at wide types
    refine ⟨fun part member => ⟨?_, ?_⟩, ofRows_ok.mp (lift_ok.mp built)⟩
    · exact Nat.not_lt.mp fun narrow => wide ⟨part, member, narrow⟩
    · exact not_not.mp fun different => types ⟨part, member, different⟩
  · rintro ⟨fits, built⟩
    refine check_ok.mpr ⟨rejectIf_ok.mpr ?_, check_ok.mpr
      ⟨rejectIf_ok.mpr ?_, lift_ok.mpr (ofRows_ok.mpr built)⟩⟩
    · rintro ⟨part, member, narrow⟩
      exact Nat.not_le.mpr narrow (fits part member).1
    · rintro ⟨part, member, different⟩
      exact different (fits part member).2

end RecordBatch

end SparkX
