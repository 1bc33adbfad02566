import SparkX.Query.Names
import SparkX.Query.Typing
import SparkX.Runtime.Plan

set_option autoImplicit false

-- The functions `of…` are the constructors of `LogicalPlan`: they check the expressions of a node
-- against the schema of its input and compute the schema of the node. `Built` says that a plan
-- comes from them.

namespace SparkX

variable {F : Type}

inductive LogicalPlan (F : Type) where
  | scan (table : String) (projection : Option (List String)) (filters : List (Expr F))
      (schema : Schema)
  | projection (input : LogicalPlan F) (exprs : List (Expr F)) (schema : Schema)
  | filter (input : LogicalPlan F) (predicate : Expr F) (schema : Schema)
  | aggregate (input : LogicalPlan F) (groupExprs aggregateExprs : List (Expr F)) (schema : Schema)
  | sort (input : LogicalPlan F) (exprs : List (SortExpr F)) (schema : Schema)
  | limit (input : LogicalPlan F) (limit : Nat) (schema : Schema)
  | join (left right : LogicalPlan F) (joinType : JoinType) (leftOn rightOn : List (Expr F))
      (schema : Schema)

def expandProjection (exprs : List (Expr F)) (schema : Schema) : List (Expr F) :=
  exprs.flatMap fun expr =>
    match expr with
    | .wildcard => schema.fields.map fun field => .column field.name
    | other => [other]

namespace LogicalPlan

def schema : LogicalPlan F → Schema
  | .scan _ _ _ schema | .projection _ _ schema | .filter _ _ schema | .aggregate _ _ _ schema
  | .sort _ _ schema | .limit _ _ schema | .join _ _ _ _ _ schema => schema

def ofScan (table : String) (schema : Schema) : LogicalPlan F := .scan table none [] schema

def ofProject [FloatOps F] (input : LogicalPlan F) (exprs : List (Expr F)) :
    Except Fault (LogicalPlan F) := do
  let expanded := expandProjection exprs input.schema
  let fields ← expanded.mapM (·.field input.schema)
  return .projection input expanded { fields }

def ofFilter (input : LogicalPlan F) (predicate : Expr F) : Except Fault (LogicalPlan F) := do
  let dataType ← predicate.dataType input.schema
  rejectIf (dataType ≠ .boolean) (Fault.error (.planning
    s!"filter predicate must be Boolean, got {dataType.toText}"))
  return .filter input predicate input.schema

def ofAggregate [FloatOps F] (input : LogicalPlan F) (groupExprs aggregateExprs : List (Expr F)) :
    Except Fault (LogicalPlan F) := do
  let fields ← (groupExprs ++ aggregateExprs).mapM (·.field input.schema)
  return .aggregate input groupExprs aggregateExprs { fields }

def ofSort (input : LogicalPlan F) (exprs : List (SortExpr F)) : Except Fault (LogicalPlan F) := do
  exprs.forM fun sort => do
    let _ ← sort.expr.dataType input.schema
  return .sort input exprs input.schema

def ofLimit (input : LogicalPlan F) (limit : Nat) : LogicalPlan F :=
  .limit input limit input.schema

def checkJoinKey (left right : Schema) (keys : Expr F × Expr F) : Except Fault Unit := do
  let leftType ← keys.1.dataType left
  let rightType ← keys.2.dataType right
  rejectIf (leftType ≠ rightType) (Fault.error (.planning
    s!"join key types differ: {leftType.toText} versus {rightType.toText}"))

def joinFields (left right : Schema) (joinType : JoinType) : List Field :=
  right.fields.foldl (fun fields field =>
    let output := if joinType = .left then { field with nullable := true } else field
    let output :=
      if fields.any (·.name = output.name) then { output with name := s!"right.{output.name}" }
      else output
    fields ++ [output]) left.fields

def ofJoin (left right : LogicalPlan F) (joinType : JoinType) (leftOn rightOn : List (Expr F)) :
    Except Fault (LogicalPlan F) := do
  rejectIf (leftOn.length ≠ rightOn.length ∨ leftOn.isEmpty) (Fault.error (.planning
    "joins require the same non-zero number of left and right keys"))
  (leftOn.zip rightOn).forM (checkJoinKey left.schema right.schema)
  return .join left right joinType leftOn rightOn
    { fields := joinFields left.schema right.schema joinType }

section

variable {input left right plan : LogicalPlan F}

theorem ofProject_ok [FloatOps F] {exprs : List (Expr F)} :
    ofProject input exprs = .ok plan ↔
      ∃ fields, (expandProjection exprs input.schema).mapM (·.field input.schema) = .ok fields ∧
        .projection input (expandProjection exprs input.schema) { fields } = plan := by
  simp only [ofProject, bind_ok, pure_eq_ok]

theorem ofFilter_ok {predicate : Expr F} :
    ofFilter input predicate = .ok plan ↔
      predicate.dataType input.schema = .ok .boolean ∧ .filter input predicate input.schema = plan := by
  simp only [ofFilter, bind_ok, rejectIf_eq_ok, not_not, exists_const, pure_eq_ok]
  constructor
  · rintro ⟨_, typed, rfl, same⟩
    exact ⟨typed, same⟩
  · rintro ⟨typed, same⟩
    exact ⟨_, typed, rfl, same⟩

theorem ofAggregate_ok [FloatOps F] {groupExprs aggregateExprs : List (Expr F)} :
    ofAggregate input groupExprs aggregateExprs = .ok plan ↔
      ∃ fields, (groupExprs ++ aggregateExprs).mapM (·.field input.schema) = .ok fields ∧
        .aggregate input groupExprs aggregateExprs { fields } = plan := by
  simp only [ofAggregate, bind_ok, pure_eq_ok]

theorem ofSort_ok {exprs : List (SortExpr F)} :
    ofSort input exprs = .ok plan ↔
      (∀ sort ∈ exprs, ∃ dataType, sort.expr.dataType input.schema = .ok dataType) ∧
        .sort input exprs input.schema = plan := by
  have typed (sort : SortExpr F) : (do let _ ← sort.expr.dataType input.schema : Except Fault Unit) =
      .ok () ↔ ∃ dataType, sort.expr.dataType input.schema = .ok dataType := by
    rw [bind_ok]
    exact exists_congr fun _ => and_iff_left rfl
  simp only [ofSort, check_ok, forM_ok, typed, pure_eq_ok]

theorem ofJoin_ok {joinType : JoinType} {leftOn rightOn : List (Expr F)} :
    ofJoin left right joinType leftOn rightOn = .ok plan ↔ leftOn ≠ [] ∧
        List.Forall₂ (fun leftKey rightKey => ∃ dataType, leftKey.dataType left.schema = .ok dataType ∧
          rightKey.dataType right.schema = .ok dataType) leftOn rightOn ∧
        .join left right joinType leftOn rightOn
          { fields := joinFields left.schema right.schema joinType } = plan := by
  have key {first second : Expr F} :
      checkJoinKey left.schema right.schema (first, second) = .ok () ↔ ∃ dataType,
        first.dataType left.schema = .ok dataType ∧ second.dataType right.schema = .ok dataType := by
    simp only [checkJoinKey, bind_ok, rejectIf_ok, not_not]
    constructor
    · rintro ⟨leftType, leftTyped, rightType, rightTyped, rfl⟩
      exact ⟨leftType, leftTyped, rightTyped⟩
    · rintro ⟨dataType, leftTyped, rightTyped⟩
      exact ⟨dataType, leftTyped, dataType, rightTyped, rfl⟩
  rw [ofJoin, check_ok, check_ok, forM_ok, rejectIf_ok, List.forall₂_iff_zip]
  simp only [Prod.forall, key, not_or, not_not, List.isEmpty_iff, ne_eq, pure_eq_ok]
  constructor
  · rintro ⟨⟨lengths, some⟩, typed, same⟩
    exact ⟨some, ⟨lengths, fun {_ _} => typed _ _⟩, same⟩
  · rintro ⟨some, ⟨lengths, typed⟩, same⟩
    exact ⟨⟨lengths, some⟩, typed, same⟩

end

-- Plans that the constructors return, over scans that `offered` allows.
inductive Built [FloatOps F] (offered : String → Schema → Prop) : LogicalPlan F → Prop
  | scan {table : String} {schema : Schema} (known : offered table schema) :
    Built offered (ofScan table schema)
  | project {input plan : LogicalPlan F} {exprs : List (Expr F)} (below : Built offered input)
      (made : ofProject input exprs = .ok plan) : Built offered plan
  | filter {input plan : LogicalPlan F} {predicate : Expr F} (below : Built offered input)
      (made : ofFilter input predicate = .ok plan) : Built offered plan
  | aggregate {input plan : LogicalPlan F} {groupExprs aggregateExprs : List (Expr F)}
      (below : Built offered input) (made : ofAggregate input groupExprs aggregateExprs = .ok plan) :
    Built offered plan
  | sort {input plan : LogicalPlan F} {exprs : List (SortExpr F)} (below : Built offered input)
      (made : ofSort input exprs = .ok plan) : Built offered plan
  | limit {input : LogicalPlan F} {count : Nat} (below : Built offered input) :
    Built offered (ofLimit input count)
  | join {left right plan : LogicalPlan F} {joinType : JoinType} {leftOn rightOn : List (Expr F)}
      (first : Built offered left) (second : Built offered right)
      (made : ofJoin left right joinType leftOn rightOn = .ok plan) : Built offered plan

end LogicalPlan

-- A scan of a table of the catalog with the table's schema, as it is or qualified.
def Catalog.offers (catalog : Catalog F) (table : String) (schema : Schema) : Prop :=
  ∃ provider, catalog.table table = .ok provider ∧
    (schema = provider.schema ∨ ∃ qualifier, schema = qualifySchema provider.schema qualifier)

end SparkX
