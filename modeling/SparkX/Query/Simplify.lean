import SparkX.Query.Typing

set_option autoImplicit false

namespace SparkX

variable {F : Type}

namespace Expr

def columns : Expr F → Finset String
  | .column name => {unqualified name}
  | .binary left _ right => left.columns ∪ right.columns
  | .isNull expr _ | .cast expr _ | .aliased expr _ | .aggregate _ expr _ => expr.columns
  | .literal _ | .wildcard => ∅

def containsAggregate : Expr F → Bool
  | .aggregate _ _ _ => true
  | .binary left _ right => left.containsAggregate || right.containsAggregate
  | .isNull expr _ | .cast expr _ | .aliased expr _ => expr.containsAggregate
  | .column _ | .literal _ | .wildcard => false

def folds (expr : Expr F) : Prop := expr.columns = ∅ ∧ expr.containsAggregate = false

instance (expr : Expr F) : Decidable expr.folds := inferInstanceAs (Decidable (_ ∧ _))

def typedLiteral (value : ScalarValue F) (dataType : DataType) : Expr F :=
  if value.dataType = dataType then .literal value else .cast (.literal value) dataType

def isNullExpression : Expr F → Bool
  | .literal .null | .aliased (.literal .null) _ => true
  | .cast expr _ | .aliased (.cast expr _) _ => expr.isNullExpression
  | _ => false

def booleanLiteral (expr : Expr F) : Option Bool :=
  match expr.unalias with
  | .literal (.boolean value) => some value
  | _ => none

-- The rewriting of an operation on simplified operands that is not a constant.
def simplifyBinary (left : Expr F) (op : Operator) (right : Expr F) (outputType : DataType) : Expr F :=
  if op.isLogical = false ∧ (left.isNullExpression || right.isNullExpression) = true then
    typedLiteral .null outputType
  else
    match op, left.booleanLiteral, right.booleanLiteral with
    | .and, some true, _ | .or, some false, _ => right
    | .and, _, some true | .or, _, some false => left
    | .and, some false, _ | .and, _, some false => .literal (.boolean false)
    | .or, some true, _ | .or, _, some true => .literal (.boolean true)
    | _, _, _ => .binary left op right

def rewrite (outputType : DataType) : Expr F → Expr F
  | .binary left op right => simplifyBinary left op right outputType
  | expr => expr

theorem simplifyBinary_logical {op : Operator} (logical : op.isLogical = true) (left right : Expr F)
    (outputType : DataType) : simplifyBinary left op right outputType =
      if left.booleanLiteral = some (op == .and) then right
      else if right.booleanLiteral = some (op == .and) then left
      else if left.booleanLiteral = some (op == .or) ∨ right.booleanLiteral = some (op == .or) then
        .literal (.boolean (op == .or))
      else .binary left op right := by
  unfold simplifyBinary
  rw [if_neg fun both => Bool.false_ne_true (both.1.symm.trans logical)]
  cases op <;> try (cases logical; done)
  all_goals
    rcases left.booleanLiteral with _ | _ | _ <;> rcases right.booleanLiteral with _ | _ | _ <;> rfl

theorem simplifyBinary_other {op : Operator} (other : op.isLogical = false) (left right : Expr F)
    (outputType : DataType) : simplifyBinary left op right outputType =
      if (left.isNullExpression || right.isNullExpression) = true then typedLiteral .null outputType
      else .binary left op right := by
  unfold simplifyBinary
  simp only [other, true_and]
  split
  · rfl
  · cases op <;> first | rfl | cases other

variable [ArrowKernels F]

-- The batch without columns and with one row on which constants are evaluated.
def unitBatch : RecordBatch F where
  schema := { fields := [] }
  rows := [[]]
  typed := by simp [Schema.admits]

def simplifyNode (expr : Expr F) (schema : Schema) : Except Fault (Expr F) := do
  let outputType ← expr.dataType schema
  if expr.folds then
    let array ← evaluate expr unitBatch
    let value ← expect array.values[0]? "index out of bounds"
    return typedLiteral (← valueAt array.dataType value) array.dataType
  return expr.rewrite outputType

def simplify (schema : Schema) : Expr F → Except Fault (Expr F)
  | .binary left op right => do
    simplifyNode (.binary (← left.simplify schema) op (← right.simplify schema)) schema
  | .isNull expr negated => do simplifyNode (.isNull (← expr.simplify schema) negated) schema
  | .cast expr dataType => do simplifyNode (.cast (← expr.simplify schema) dataType) schema
  | .aliased expr name => do return .aliased (← expr.simplify schema) name
  | .aggregate function expr distinct => do
    return .aggregate function (← expr.simplify schema) distinct
  | .wildcard => return .wildcard
  | .column name => simplifyNode (.column name) schema
  | .literal value => simplifyNode (.literal value) schema

end Expr

end SparkX
