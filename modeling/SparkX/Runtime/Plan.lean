import SparkX.Query.Meaning

set_option autoImplicit false

namespace SparkX

-- The part of the `TableProvider` trait that execution uses. The batches of a scan agree on their
-- schema, whichever partition they come from.
structure TableProvider (F : Type) where
  schema : Schema
  partitionCount : Nat
  partitionMayMatch : Nat → List (Expr F) → Except SparkXError Bool
  scanPartition : Nat → Option (List Nat) → Nat → Except SparkXError (List (RecordBatch F))
  uniform : ∀ projection batchSize, ∃ scanned : Schema, ∀ partition batches,
    scanPartition partition projection batchSize = .ok batches → ∀ batch ∈ batches, batch.schema = scanned

structure MemoryTable (F : Type) where
  schema : Schema
  partitions : List (List (RecordBatch F))
  uniform : ∀ batches ∈ partitions, ∀ batch ∈ batches, batch.schema = schema

namespace MemoryTable

variable {F : Type}

def scanPartition (table : MemoryTable F) (partition : Nat) (projection : Option (List Nat))
    (_batchSize : Nat) : Except SparkXError (List (RecordBatch F)) := do
  let batches ← okOr table.partitions[partition]? (.execution s!"invalid partition {partition}")
  batches.mapM fun batch =>
    match projection with
    | some indices => batch.project indices
    | none => .ok batch

theorem project_schema {batch projected : RecordBatch F} {indices : List Nat}
    (done : batch.project indices = .ok projected) :
    projected.schema = ⟨indices.filterMap (batch.schema.fields[·]?), batch.schema.metadata⟩ := by
  unfold RecordBatch.project at done
  split at done
  · rw [← Except.ok.inj done]
  · cases done

def provider (table : MemoryTable F) : TableProvider F :=
  { schema := table.schema
    partitionCount := table.partitions.length
    partitionMayMatch := fun _ _ => .ok true
    scanPartition := table.scanPartition
    uniform := by
      intro projection batchSize
      refine ⟨projection.elim table.schema fun indices =>
        ⟨indices.filterMap (table.schema.fields[·]?), table.schema.metadata⟩, ?_⟩
      intro partition batches scanned batch member
      obtain ⟨stored, present, mapped⟩ := bind_ok.mp scanned
      obtain ⟨old, inside, found⟩ := Rowwise.forall₂_mem (Rowwise.mapM_ok.mp mapped) member
      have kept := table.uniform stored (List.mem_of_getElem? (okOr_ok.mp present)) old inside
      cases projection with
      | none => rw [← Except.ok.inj found, kept, Option.elim_none]
      | some indices => rw [project_schema found, kept, Option.elim_some] }

end MemoryTable

structure SortExpr (F : Type) where
  expr : Expr F
  ascending : Bool
  nullsFirst : Bool

inductive JoinType where
  | inner
  | left
deriving DecidableEq, Repr

-- The fields of a join: those on the right are made nullable by a left join, and renamed where the
-- name is taken.
def joinSchema (left right : Schema) (joinType : JoinType) : Schema :=
  { fields := right.fields.foldl (fun fields field =>
      let output := if joinType = .left then { field with nullable := true } else field
      let output :=
        if fields.any (·.name = output.name) then { output with name := s!"right.{output.name}" }
        else output
      fields ++ [output]) left.fields }

abbrev OperatorId := U32

inductive PhysicalPlan (F : Type) where
  | scan (id : OperatorId) (tableName : String) (provider : TableProvider F)
      (projection : Option (List Nat)) (filters : List (Expr F)) (schema : Schema)
  | projection (id : OperatorId) (input : PhysicalPlan F) (exprs : List (Expr F)) (schema : Schema)
  | filter (id : OperatorId) (input : PhysicalPlan F) (predicate : Expr F) (schema : Schema)
  | hashAggregate (id : OperatorId) (input : PhysicalPlan F)
      (groupExprs aggregateExprs : List (Expr F)) (schema : Schema)
  | sort (id : OperatorId) (input : PhysicalPlan F) (exprs : List (SortExpr F)) (schema : Schema)
  | topK (id : OperatorId) (input : PhysicalPlan F) (exprs : List (SortExpr F)) (limit : Nat)
      (schema : Schema)
  | limit (id : OperatorId) (input : PhysicalPlan F) (limit : Nat) (schema : Schema)
  | hashJoin (id : OperatorId) (left right : PhysicalPlan F) (joinType : JoinType)
      (leftOn rightOn : List (Expr F)) (schema : Schema)

namespace PhysicalPlan

variable {F : Type}

def schema : PhysicalPlan F → Schema
  | .scan _ _ _ _ _ schema | .projection _ _ _ schema | .filter _ _ _ schema
  | .hashAggregate _ _ _ _ schema | .sort _ _ _ schema | .topK _ _ _ _ schema | .limit _ _ _ schema
  | .hashJoin _ _ _ _ _ _ schema => schema

end PhysicalPlan

-- The tables by their names in lower case.
structure Catalog (F : Type) where
  tables : String → Option (TableProvider F)

def Catalog.table {F : Type} (catalog : Catalog F) (name : String) :
    Except SparkXError (TableProvider F) :=
  okOr (catalog.tables (String.ofList (name.toList.map Char.toLower))) (.notFound s!"table '{name}'")

def projectedSchema (schema : Schema) : Option (List Nat) → Schema
  | none => schema
  | some indices => { fields := indices.filterMap (schema.fields[·]?) }

end SparkX
