import SparkX.Query.Expr

set_option autoImplicit false

namespace SparkX

variable {F : Type}

def DataType.isBooleanOrNull : DataType → Bool
  | .boolean | .null => true
  | _ => false

def AggregateFunction.toDebug : AggregateFunction → String
  | .count => "Count"
  | .sum => "Sum"
  | .sumUInt64 => "SumUInt64"
  | .min => "Min"
  | .max => "Max"
  | .avg => "Avg"

def Schema.findField (schema : Schema) (name : String) : Except Fault Field := do
  let index ← schema.resolveFieldIndex name
  expect schema.fields[index]? "index out of bounds"

theorem Schema.findField_no_panic (schema : Schema) (name message : String) :
    schema.findField name ≠ .error (.panic message) := by
  intro panicked
  rcases bind_error.mp panicked with refused | ⟨index, resolved, missing⟩
  · exact lift_no_panic refused
  · have inside := Schema.resolveFieldIndex_lt (lift_ok.mp resolved)
    rw [List.getElem?_eq_getElem inside] at missing
    cases missing

def Operator.operandType (op : Operator) (left right : DataType) : Except SparkXError DataType :=
  if op.isLogical then
    if left.isBooleanOrNull && right.isBooleanOrNull then .ok .boolean
    else .error (.planning s!"{op.toText} requires Boolean operands, got {left.toText} and {right.toText}")
  else if op.isArithmetic then
    okOr (left.commonNumericType right) (.planning
      s!"{op.toText} requires numeric operands, got {left.toText} and {right.toText}")
  else if left = right ∨ left = .null ∨ right = .null ∨ (left.commonNumericType right).isSome then
    .ok .boolean
  else .error (.planning s!"cannot compare {left.toText} and {right.toText}")

def AggregateFunction.argumentType (function : AggregateFunction) (input : DataType) :
    Except SparkXError DataType :=
  match function with
  | .count => .ok .uint64
  | .sumUInt64 =>
    if input = .uint64 then .ok .uint64
    else .error (.planning s!"internal unsigned sum requires UInt64, got {input.toText}")
  | .sum | .avg =>
    if input.isNumeric then .ok .float64
    else .error (.planning s!"{function.toDebug} requires a numeric argument, got {input.toText}")
  | .min | .max => .ok input

namespace Expr

def name [FloatOps F] : Expr F → String
  | .column name => unqualified name
  | .literal value => value.toText
  | .aliased _ name => name
  | .aggregate function expr _ => s!"{function.toText}({expr.toText})"
  | .wildcard => "*"
  | expr => expr.toText

def dataType (schema : Schema) : Expr F → Except Fault DataType
  | .column name => Field.dataType <$> schema.findField name
  | .literal value => .ok value.dataType
  | .binary left op right => do op.operandType (← left.dataType schema) (← right.dataType schema)
  | .isNull _ _ => .ok .boolean
  | .cast _ dataType => .ok dataType
  -- `unalias` looks through one alias only, and the match behind it has no case for another.
  | .aliased (.aliased _ _) _ => .error (.panic "internal error: entered unreachable code")
  | .aliased expr _ => expr.dataType schema
  | .aggregate .count _ _ => .ok .uint64
  | .aggregate function expr _ => do function.argumentType (← expr.dataType schema)
  | .wildcard => .error (.error (.planning "wildcard must be expanded before type inference"))

def field [FloatOps F] (schema : Schema) (expr : Expr F) : Except Fault Field := do
  return { name := expr.name, dataType := ← expr.dataType schema, nullable := true }

-- Type inference comes to an alias whose operand is an alias. It looks at the operands of a binary
-- expression and at the argument of an aggregate other than `COUNT`, and on the right of an
-- operator only once the left operand has a type.
def meetsNestedAlias (schema : Schema) : Expr F → Prop
  | .aliased (.aliased _ _) _ => True
  | .aliased expr _ => expr.meetsNestedAlias schema
  | .binary left _ right =>
    left.meetsNestedAlias schema ∨
      (∃ dataType, left.dataType schema = .ok dataType) ∧ right.meetsNestedAlias schema
  | .aggregate function expr _ => function ≠ .count ∧ expr.meetsNestedAlias schema
  | _ => False

def references : Expr F → List String
  | .column name => [name]
  | .binary left _ right => left.references ++ right.references
  | .isNull expr _ | .cast expr _ | .aliased expr _ | .aggregate _ expr _ => expr.references
  | .literal _ | .wildcard => []

def typedColumns : Expr F → List String
  | .column name => [name]
  | .binary left _ right => left.typedColumns ++ right.typedColumns
  | .aliased (.aliased _ _) _ => []
  | .aliased expr _ => expr.typedColumns
  | .aggregate .count _ _ => []
  | .aggregate _ expr _ => expr.typedColumns
  | .isNull _ _ | .cast _ _ | .literal _ | .wildcard => []

variable {expr : Expr F} {schema other : Schema}

theorem typedColumns_subset : expr.typedColumns ⊆ expr.references := by
  induction expr with
  | column | literal | isNull | cast | wildcard => simp [typedColumns, references]
  | binary left op right leftIh rightIh =>
    intro name found
    simp only [typedColumns, references, List.mem_append] at found ⊢
    exact found.imp (@leftIh name) (@rightIh name)
  | aliased expr name ih =>
    cases expr with
    | aliased => simp [typedColumns]
    | _ => exact ih
  | aggregate function expr distinct ih =>
    cases function with
    | count => simp [typedColumns]
    | _ => exact ih

theorem dataType_congr (same : ∀ name ∈ expr.typedColumns, schema.findField name = other.findField name) :
    expr.dataType schema = expr.dataType other := by
  induction expr with
  | column name => simp only [dataType, same name (List.mem_singleton_self name)]
  | literal | isNull | cast | wildcard => rfl
  | binary left op right leftIh rightIh =>
    simp only [dataType, leftIh fun name found => same name (List.mem_append_left _ found),
      rightIh fun name found => same name (List.mem_append_right _ found)]
  | aliased expr name ih =>
    cases expr with
    | aliased => rfl
    | _ => exact ih same
  | aggregate function expr distinct ih =>
    cases function with
    | count => rfl
    | _ => simp only [dataType, ih same]

theorem dataType_panics : Panics (expr.dataType schema) ↔ expr.meetsNestedAlias schema := by
  induction expr with
  | column name =>
    refine ⟨?_, False.elim⟩
    rintro ⟨message, panicked⟩
    exact absurd (map_eq_error.mp panicked) (schema.findField_no_panic name message)
  | literal | isNull | cast | wildcard =>
    refine ⟨?_, False.elim⟩
    rintro ⟨_, ⟨⟩⟩
  | binary left op right leftIh rightIh =>
    simp only [dataType, meetsNestedAlias, panics_bind, panics_lift, leftIh, rightIh]
    grind
  | aliased expr name ih =>
    cases expr with
    | aliased inner other => exact ⟨fun _ => trivial, fun _ => ⟨_, rfl⟩⟩
    | _ => exact ih
  | aggregate function expr distinct ih =>
    cases function with
    | count =>
      refine ⟨?_, fun nested => absurd rfl nested.1⟩
      rintro ⟨_, ⟨⟩⟩
    | _ => simp [dataType, meetsNestedAlias, panics_bind, ih]

theorem field_ok [FloatOps F] {field : Field} :
    expr.field schema = .ok field ↔ ∃ dataType, expr.dataType schema = .ok dataType ∧
      field = { name := expr.name, dataType, nullable := true } := by
  rw [Expr.field, bind_ok]
  exact exists_congr fun dataType => and_congr_right fun _ =>
    ⟨fun same => (Except.ok.inj same).symm, fun same => same ▸ rfl⟩

theorem field_panics [FloatOps F] : Panics (expr.field schema) ↔ expr.meetsNestedAlias schema := by
  simp only [Expr.field, panics_bind, dataType_panics, panics_pure, and_false, exists_false, or_false]

end Expr

end SparkX
