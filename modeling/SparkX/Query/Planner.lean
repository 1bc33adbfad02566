import SparkX.Query.Logical

set_option autoImplicit false

namespace SparkX

variable {F : Type}

namespace PhysicalPlanner

-- `*next_id += 1`
def advance (id : OperatorId) : Except Fault OperatorId :=
  expect (Word.checkedAdd id 1) "attempt to add with overflow"

def resolveProjection (schema : Schema) :
    Option (List String) → Except SparkXError (Option (List Nat))
  | none => .ok none
  | some columns => some <$> columns.mapM schema.resolveFieldIndex

-- `build`, which numbers the operators in the order in which it comes to them.
def build (catalog : Catalog F) :
    LogicalPlan F → OperatorId → Except Fault (PhysicalPlan F × OperatorId)
  | .scan table columns filters schema, id => do
    let next ← advance id
    let provider ← catalog.table table
    let indices ← resolveProjection provider.schema columns
    return (.scan id table provider indices filters schema, next)
  | .projection input exprs schema, id => do
    let (input, next) ← build catalog input (← advance id)
    return (.projection id input exprs schema, next)
  | .filter input predicate schema, id => do
    let (input, next) ← build catalog input (← advance id)
    return (.filter id input predicate schema, next)
  | .aggregate input groupExprs aggregateExprs schema, id => do
    let (input, next) ← build catalog input (← advance id)
    return (.hashAggregate id input groupExprs aggregateExprs schema, next)
  | .sort input exprs schema, id => do
    let (input, next) ← build catalog input (← advance id)
    return (.sort id input exprs schema, next)
  -- A sort right below a limit is fused with it.
  | .limit (.sort input exprs _) count schema, id => do
    let (input, next) ← build catalog input (← advance id)
    return (.topK id input exprs count schema, next)
  | .limit input count schema, id => do
    let (input, next) ← build catalog input (← advance id)
    return (.limit id input count schema, next)
  | .join left right joinType leftOn rightOn schema, id => do
    let (left, next) ← build catalog left (← advance id)
    let (right, next) ← build catalog right next
    return (.hashJoin id left right joinType leftOn rightOn schema, next)

def createPhysicalPlan (catalog : Catalog F) (logical : LogicalPlan F) :
    Except Fault (PhysicalPlan F) := do
  return (← build catalog logical 0).1

theorem build_limit {catalog : Catalog F} {input : LogicalPlan F} {count : Nat} {schema : Schema}
    {id next : OperatorId} {plan : PhysicalPlan F}
    (planned : build catalog (.limit input count schema) id = .ok (plan, next)) :
    (∃ below exprs sorted child, input = .sort below exprs sorted ∧
        build catalog input id = .ok (.sort id child exprs sorted, next) ∧
        plan = .topK id child exprs count schema) ∨
      ∃ first child, advance id = .ok first ∧ build catalog input first = .ok (child, next) ∧
        plan = .limit id child count schema := by
  cases input with
  | sort below exprs sorted =>
    simp only [build, bind_ok, pure_eq_ok, Prod.exists, Prod.mk.injEq] at planned
    obtain ⟨first, advanced, child, _, built, rfl, rfl⟩ := planned
    refine .inl ⟨below, exprs, sorted, child, rfl, ?_, rfl⟩
    simp only [build, bind_ok, pure_eq_ok, Prod.exists, Prod.mk.injEq]
    exact ⟨first, advanced, child, _, built, rfl, rfl⟩
  | _ =>
    rw [build] at planned
    · simp only [bind_ok, pure_eq_ok, Prod.exists, Prod.mk.injEq] at planned
      obtain ⟨first, advanced, child, _, built, rfl, rfl⟩ := planned
      exact .inr ⟨first, child, advanced, built, rfl⟩
    · nofun

end PhysicalPlanner

end SparkX
