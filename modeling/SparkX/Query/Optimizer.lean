import SparkX.Query.Logical
import SparkX.Query.Simplify

set_option autoImplicit false

namespace SparkX

variable {F : Type}

namespace LogicalPlan

section

variable [FloatOps F]

def isIdentity (exprs : List (Expr F)) (schema : Schema) : Bool :=
  exprs.length = schema.fields.length && (exprs.zip schema.fields).all fun (expr, field) =>
      match expr.unalias with
      | .column name => expr.name = field.name && unqualified name = field.name
      | _ => false

def eliminateIdentityProjection : LogicalPlan F → Except Fault (LogicalPlan F)
  | .projection input exprs _ =>
    if isIdentity exprs input.schema then .ok input else ofProject input exprs
  | plan => .ok plan

def pushFilterIntoScan : LogicalPlan F → Except Fault (LogicalPlan F)
  | .filter (.scan table columns filters schema) predicate _ =>
    .ok (.scan table columns (filters ++ [predicate]) schema)
  | .filter input predicate _ => ofFilter input predicate
  | plan => .ok plan

def requiredColumns (exprs : List (Expr F)) : Finset String :=
  exprs.foldl (fun required expr => required ∪ expr.columns) ∅

def projectionIndices (schema : Schema) (required : Finset String) : Except Fault (List Nat) :=
  (required.sort (· ≤ ·)).mapM fun name => schema.resolveFieldIndex name

def pushProjectionIntoScan : LogicalPlan F → Except Fault (LogicalPlan F)
  | .projection (.scan table columns filters schema) exprs _ => do
    let required := requiredColumns (exprs ++ filters)
    if required = ∅ then
      ofProject (.scan table columns filters schema) exprs
    else
      let indices ← projectionIndices schema required
      let fields ← indices.mapM fun index => expect schema.fields[index]? "index out of bounds"
      ofProject (.scan table (some (fields.map (·.name))) filters { fields }) exprs
  | .projection input exprs _ => ofProject input exprs
  | plan => .ok plan

end

variable [ArrowKernels F]

def simplifyExpressions : LogicalPlan F → Except Fault (LogicalPlan F)
  | .scan table columns filters schema => do
    return .scan table columns (← filters.mapM (·.simplify schema)) schema
  | .projection input exprs _ => do ofProject input (← exprs.mapM (·.simplify input.schema))
  | .filter input predicate _ => do ofFilter input (← predicate.simplify input.schema)
  | .aggregate input groupExprs aggregateExprs _ => do
    ofAggregate input (← groupExprs.mapM (·.simplify input.schema))
      (← aggregateExprs.mapM (·.simplify input.schema))
  | .sort input exprs _ => do
    ofSort input (← exprs.mapM fun sort => do
      return { sort with expr := ← sort.expr.simplify input.schema })
  | .limit input count _ => return ofLimit input count
  | .join left right joinType leftOn rightOn _ => do
    ofJoin left right joinType (← leftOn.mapM (·.simplify left.schema))
      (← rightOn.mapM (·.simplify right.schema))

def applyRules (plan : LogicalPlan F) : Except Fault (LogicalPlan F) := do
  let plan ← simplifyExpressions plan
  let plan ← pushFilterIntoScan plan
  let plan ← pushProjectionIntoScan plan
  eliminateIdentityProjection plan

-- What stands before `applyRules` in each case is `optimize_children`.
def optimize : LogicalPlan F → Except Fault (LogicalPlan F)
  | .scan table columns filters schema => applyRules (.scan table columns filters schema)
  | .projection input exprs _ => do applyRules (← ofProject (← input.optimize) exprs)
  | .filter input predicate _ => do applyRules (← ofFilter (← input.optimize) predicate)
  | .aggregate input groupExprs aggregateExprs _ => do
    applyRules (← ofAggregate (← input.optimize) groupExprs aggregateExprs)
  | .sort input exprs _ => do applyRules (← ofSort (← input.optimize) exprs)
  | .limit input count _ => do applyRules (ofLimit (← input.optimize) count)
  | .join left right joinType leftOn rightOn _ => do
    applyRules (← ofJoin (← left.optimize) (← right.optimize) joinType leftOn rightOn)

end LogicalPlan

end SparkX
