import SparkX.Query.Typing
import SparkX.Runtime.Plan
import SparkX.Shared.Code
import SparkX.Shared.Text

set_option autoImplicit false

-- The messages of the codec as trees, and the codecs of everything below a plan. A message field of
-- type `WireExpr` or `WirePlan` may be left out: `absent` stands for a field that is not set, and
-- `unset` for a message without its `kind`. Codes of enumerations are `i32` on the wire.

namespace SparkX

variable {F : Type}

def codecError (message : String) : SparkXError :=
  .protocol s!"invalid physical plan fragment: {message}"

-- `required` on a field that is not set
def missing {α : Type} (name : String) : Except SparkXError α :=
  .error (codecError s!"{name} is missing")

abbrev WireKeyValue := String × String

structure WireField where
  name : String
  dataType : Int
  nullable : Bool
  metadata : List WireKeyValue
deriving DecidableEq

structure WireSchema where
  fields : List WireField
  metadata : List WireKeyValue
deriving DecidableEq

inductive WireScalar (F : Type) where
  | unset
  | null (marker : Bool)
  | boolean (value : Bool)
  | int64 (value : I64)
  | uint64 (value : U64)
  | float64 (value : F)
  | utf8 (value : String)

inductive WireExpr (F : Type) where
  | absent
  | unset
  | column (name : String)
  | literal (value : WireScalar F)
  | binary (left : WireExpr F) (operator : Int) (right : WireExpr F)
  | isNull (expr : WireExpr F) (negated : Bool)
  | cast (expr : WireExpr F) (dataType : Int)
  | aliased (expr : WireExpr F) (name : String)
  | aggregate (function : Int) (expr : WireExpr F) (distinct : Bool)
  | wildcard (marker : Bool)

structure WireSortExpr (F : Type) where
  expr : WireExpr F
  ascending : Bool
  nullsFirst : Bool

inductive WirePlan (F : Type) where
  | absent
  | unset
  | scan (id : OperatorId) (tableName : String) (hasProjection : Bool) (projection : List U32)
      (filters : List (WireExpr F)) (schema : Option WireSchema)
  | projection (id : OperatorId) (input : WirePlan F) (exprs : List (WireExpr F))
      (schema : Option WireSchema)
  | filter (id : OperatorId) (input : WirePlan F) (predicate : WireExpr F)
      (schema : Option WireSchema)
  | hashAggregate (id : OperatorId) (input : WirePlan F)
      (groupExprs aggregateExprs : List (WireExpr F)) (schema : Option WireSchema)
  | sort (id : OperatorId) (input : WirePlan F) (exprs : List (WireSortExpr F))
      (schema : Option WireSchema)
  | topK (id : OperatorId) (input : WirePlan F) (exprs : List (WireSortExpr F)) (limit : U64)
      (schema : Option WireSchema)
  | limit (id : OperatorId) (input : WirePlan F) (limit : U64) (schema : Option WireSchema)
  | hashJoin (id : OperatorId) (left right : WirePlan F) (joinType : Int)
      (leftOn rightOn : List (WireExpr F)) (schema : Option WireSchema)

section

def wireDataTypes : List DataType :=
  [.null, .boolean, .int32, .int64, .uint32, .uint64, .float32, .float64, .utf8]

def wireOperators : List Operator :=
  [.eq, .notEq, .lt, .ltEq, .gt, .gtEq, .and, .or, .add, .subtract, .multiply, .divide]

def wireAggregateFunctions : List AggregateFunction := [.count, .sum, .min, .max, .avg, .sumUInt64]

def wireJoinTypes : List JoinType := [.inner, .left]

-- `try_from` of an enumeration, with the error for an unknown code.
def decodeCode {α : Type} (values : List α) (kind : String) (code : Int) : Except SparkXError α :=
  okOr (Code.read values code) (codecError s!"unknown {kind} code {code}")

def encodeDataType (dataType : DataType) : Except SparkXError Int :=
  okOr (Code.write wireDataTypes dataType) <| codecError
    s!"Arrow data type {dataType.toText} is not supported by plan codec version 2"

def decodeDataType : Int → Except SparkXError DataType :=
  decodeCode wireDataTypes "Arrow data-type"

def encodeOperator (op : Operator) : Int := wireOperators.idxOf op

def decodeOperator : Int → Except SparkXError Operator :=
  decodeCode wireOperators "expression operator"

def encodeAggregateFunction (function : AggregateFunction) : Int :=
  wireAggregateFunctions.idxOf function

def decodeAggregateFunction : Int → Except SparkXError AggregateFunction :=
  decodeCode wireAggregateFunctions "aggregate function"

def encodeJoinType (joinType : JoinType) : Int := wireJoinTypes.idxOf joinType

def decodeJoinType : Int → Except SparkXError JoinType := decodeCode wireJoinTypes "join type"

variable {code : Int}

theorem decodeDataType_ok {dataType : DataType} :
    decodeDataType code = .ok dataType ↔ encodeDataType dataType = .ok code := by
  rw [decodeDataType, decodeCode, okOr_ok, encodeDataType, okOr_ok, Code.write_eq_some (by decide)]

theorem decodeCode_ok {α : Type} [DecidableEq α] {values : List α} (distinct : values.Nodup)
    (complete : ∀ value, value ∈ values) {kind : String} {value : α} :
    decodeCode values kind code = .ok value ↔ Int.ofNat (values.idxOf value) = code := by
  rw [decodeCode, okOr_ok, Code.idxOf_eq_iff distinct (complete value)]

theorem decodeOperator_ok {op : Operator} : decodeOperator code = .ok op ↔ encodeOperator op = code :=
  decodeCode_ok (by decide) fun op => by cases op <;> decide

theorem decodeAggregateFunction_ok {function : AggregateFunction} :
    decodeAggregateFunction code = .ok function ↔ encodeAggregateFunction function = code :=
  decodeCode_ok (by decide) fun function => by cases function <;> decide

theorem decodeJoinType_ok {joinType : JoinType} :
    decodeJoinType code = .ok joinType ↔ encodeJoinType joinType = code :=
  decodeCode_ok (by decide) fun joinType => by cases joinType <;> decide

end

def encodeScalar : ScalarValue F → WireScalar F
  | .null => .null true
  | .boolean value => .boolean value
  | .int64 value => .int64 value
  | .uint64 value => .uint64 value
  | .float64 value => .float64 value
  | .utf8 value => .utf8 value

def decodeScalar : WireScalar F → Except SparkXError (ScalarValue F)
  | .unset => missing "scalar value"
  | .null true => .ok .null
  | .null false => .error (codecError "null scalar marker must be true")
  | .boolean value => .ok (.boolean value)
  | .int64 value => .ok (.int64 value)
  | .uint64 value => .ok (.uint64 value)
  | .float64 value => .ok (.float64 value)
  | .utf8 value => .ok (.utf8 value)

theorem decodeScalar_ok {wire : WireScalar F} {value : ScalarValue F} :
    decodeScalar wire = .ok value ↔ wire = encodeScalar value := by
  cases wire with
  | null marker => cases marker <;> cases value <;> simp [decodeScalar, encodeScalar]
  | _ => cases value <;> simp [decodeScalar, encodeScalar, missing, eq_comm]

def encodeMetadata (metadata : Metadata) : List WireKeyValue := metadata.entries

def decodeMetadata (entries : List WireKeyValue) : Except SparkXError Metadata :=
  (Association.empty.ofEntries entries).mapError fun key =>
    codecError s!"schema metadata key '{key}' appears more than once"

theorem decodeMetadata_ok {entries : List WireKeyValue} {metadata : Metadata} :
    decodeMetadata entries = .ok metadata ↔ (encodeMetadata metadata).Perm entries := by
  rw [decodeMetadata, Except.mapError_eq_ok, Association.ofEntries_ok]
  rfl

def encodeField (field : Field) : Except SparkXError WireField := do
  return {
    name := field.name
    dataType := ← encodeDataType field.dataType
    nullable := field.nullable
    metadata := encodeMetadata field.metadata }

def encodeSchema (schema : Schema) : Except SparkXError WireSchema := do
  return {
    fields := ← schema.fields.mapM encodeField
    metadata := encodeMetadata schema.metadata }

def decodeField (field : WireField) : Except SparkXError Field := do
  return {
    name := field.name
    dataType := ← decodeDataType field.dataType
    nullable := field.nullable
    metadata := ← decodeMetadata field.metadata }

def decodeSchema (schema : WireSchema) : Except SparkXError Schema := do
  return {
    fields := ← schema.fields.mapM decodeField
    metadata := ← decodeMetadata schema.metadata }

def decodeRequiredSchema (schema : Option WireSchema) (operator : String) :
    Except SparkXError Schema :=
  match schema with
  | none => missing s!"{operator} schema"
  | some schema => decodeSchema schema

structure WireField.Similar (first second : WireField) : Prop where
  name : first.name = second.name
  dataType : first.dataType = second.dataType
  nullable : first.nullable = second.nullable
  metadata : first.metadata.Perm second.metadata

structure WireSchema.Similar (first second : WireSchema) : Prop where
  fields : List.Forall₂ WireField.Similar first.fields second.fields
  metadata : first.metadata.Perm second.metadata

theorem decodeField_ok {wire : WireField} {field : Field} :
    decodeField wire = .ok field ↔ ∃ encoded, encodeField field = .ok encoded ∧ encoded.Similar wire := by
  simp only [decodeField, encodeField, bind_ok, decodeMetadata_ok, decodeDataType_ok]
  constructor
  · rintro ⟨dataType, typed, metadata, listed, same⟩
    cases same
    exact ⟨_, ⟨_, typed, rfl⟩, rfl, rfl, rfl, listed⟩
  · rintro ⟨encoded, ⟨code, typed, same⟩, similar⟩
    cases same
    obtain ⟨name, dataType, nullable, metadata⟩ := similar
    obtain ⟨wireName, wireType, wireNullable, wireMetadata⟩ := wire
    cases name
    cases dataType
    cases nullable
    exact ⟨_, typed, _, metadata, rfl⟩

theorem decodeSchema_ok {wire : WireSchema} {schema : Schema} :
    decodeSchema wire = .ok schema ↔
      ∃ encoded, encodeSchema schema = .ok encoded ∧ encoded.Similar wire := by
  have fields {wires : List WireField} {decoded : List Field} :
      wires.mapM decodeField = .ok decoded ↔ ∃ encoded, decoded.mapM encodeField = .ok encoded ∧
          List.Forall₂ WireField.Similar encoded wires := by
    have inverse (wire : WireField) (field : Field) : decodeField wire = .ok field ↔
        True ∧ ∃ encoded, encodeField field = .ok encoded ∧ encoded.Similar wire := by
      rw [decodeField_ok, true_and]
    rw [Rowwise.mapM_inverse inverse]
    exact and_iff_right fun _ _ => trivial
  simp only [decodeSchema, encodeSchema, bind_ok, decodeMetadata_ok, fields]
  constructor
  · rintro ⟨decoded, ⟨encoded, written, similar⟩, metadata, listed, same⟩
    cases same
    exact ⟨_, ⟨_, written, rfl⟩, similar, listed⟩
  · rintro ⟨encoded, ⟨written, encodes, same⟩, similar⟩
    cases same
    exact ⟨_, ⟨_, encodes, similar.fields⟩, _, similar.metadata, rfl⟩

def encodeExpr : Expr F → Except SparkXError (WireExpr F)
  | .column name => .ok (.column name)
  | .literal value => .ok (.literal (encodeScalar value))
  | .binary left op right => do
    return .binary (← encodeExpr left) (encodeOperator op) (← encodeExpr right)
  | .isNull expr negated => do return .isNull (← encodeExpr expr) negated
  | .cast expr dataType => do return .cast (← encodeExpr expr) (← encodeDataType dataType)
  | .aliased expr name => do return .aliased (← encodeExpr expr) name
  | .aggregate function expr distinct => do
    return .aggregate (encodeAggregateFunction function) (← encodeExpr expr) distinct
  | .wildcard => .ok (.wildcard true)

-- `decode_expr` of a required field; `name` is the field that the error names.
def decodeExpr (name : String) : WireExpr F → Except SparkXError (Expr F)
  | .absent => missing name
  | .unset => missing "expression kind"
  | .column column => do
    rejectIf (Text.isBlank column) (codecError "column name must not be empty")
    return .column column
  | .literal value => .literal <$> decodeScalar value
  | .binary left operator right => do
    let left ← decodeExpr "binary left operand" left
    let op ← decodeOperator operator
    return .binary left op (← decodeExpr "binary right operand" right)
  | .isNull expr negated => do return .isNull (← decodeExpr "IS NULL operand" expr) negated
  | .cast expr dataType => do
    return .cast (← decodeExpr "cast operand" expr) (← decodeDataType dataType)
  | .aliased expr column => do
    rejectIf (Text.isBlank column) (codecError "expression alias must not be empty")
    return .aliased (← decodeExpr "aliased expression" expr) column
  | .aggregate function expr distinct => do
    let function ← decodeAggregateFunction function
    return .aggregate function (← decodeExpr "aggregate argument" expr) distinct
  | .wildcard true => .ok .wildcard
  | .wildcard false => .error (codecError "wildcard marker must be true")

def Expr.Named : Expr F → Prop
  | .column name => Text.isBlank name = false
  | .aliased expr name => Text.isBlank name = false ∧ expr.Named
  | .binary left _ right => left.Named ∧ right.Named
  | .isNull expr _ | .cast expr _ | .aggregate _ expr _ => expr.Named
  | .literal _ | .wildcard => True

theorem decodeExpr_ok {name : String} {wire : WireExpr F} {expr : Expr F} :
    decodeExpr name wire = .ok expr ↔ expr.Named ∧ encodeExpr expr = .ok wire := by
  constructor
  · intro decoded
    induction wire generalizing name expr with
    | absent => cases decoded
    | unset => cases decoded
    | column column =>
      obtain ⟨named, same⟩ := check_ok.mp decoded
      cases same
      exact ⟨Bool.eq_false_iff.mpr (rejectIf_ok.mp named), rfl⟩
    | literal value =>
      obtain ⟨scalar, read, rfl⟩ := map_eq_ok.mp decoded
      exact ⟨trivial, by rw [decodeScalar_ok.mp read, encodeExpr]⟩
    | binary left operator right leftIh rightIh =>
      simp only [decodeExpr, bind_ok] at decoded
      obtain ⟨first, leftRead, op, known, second, rightRead, same⟩ := decoded
      cases same
      obtain ⟨leftNamed, leftWritten⟩ := leftIh leftRead
      obtain ⟨rightNamed, rightWritten⟩ := rightIh rightRead
      refine ⟨⟨leftNamed, rightNamed⟩, ?_⟩
      rw [encodeExpr, leftWritten, rightWritten, decodeOperator_ok.mp known]
      rfl
    | isNull inner negated ih =>
      obtain ⟨expr, read, same⟩ := bind_ok.mp decoded
      cases same
      obtain ⟨named, written⟩ := ih read
      exact ⟨named, by rw [encodeExpr, written]; rfl⟩
    | cast inner code ih =>
      simp only [decodeExpr, bind_ok] at decoded
      obtain ⟨expr, read, dataType, known, same⟩ := decoded
      cases same
      obtain ⟨named, written⟩ := ih read
      exact ⟨named, by rw [encodeExpr, written, decodeDataType_ok.mp known]; rfl⟩
    | aliased inner column ih =>
      obtain ⟨named, decoded⟩ := check_ok.mp decoded
      obtain ⟨expr, read, same⟩ := bind_ok.mp decoded
      cases same
      obtain ⟨innerNamed, written⟩ := ih read
      exact ⟨⟨Bool.eq_false_iff.mpr (rejectIf_ok.mp named), innerNamed⟩, by rw [encodeExpr, written]; rfl⟩
    | aggregate code inner distinct ih =>
      simp only [decodeExpr, bind_ok] at decoded
      obtain ⟨function, known, expr, read, same⟩ := decoded
      cases same
      obtain ⟨named, written⟩ := ih read
      exact ⟨named, by rw [encodeExpr, written, decodeAggregateFunction_ok.mp known]; rfl⟩
    | wildcard marker =>
      cases marker with
      | true =>
        cases decoded
        exact ⟨trivial, rfl⟩
      | false => cases decoded
  · rintro ⟨named, encoded⟩
    induction expr generalizing name wire with
    | column column =>
      cases encoded
      exact check_ok.mpr ⟨rejectIf_ok.mpr (Bool.eq_false_iff.mp named), rfl⟩
    | literal value =>
      cases encoded
      exact map_eq_ok.mpr ⟨value, decodeScalar_ok.mpr rfl, rfl⟩
    | binary left op right leftIh rightIh =>
      simp only [encodeExpr, bind_ok] at encoded
      obtain ⟨first, leftWritten, second, rightWritten, same⟩ := encoded
      cases same
      rw [decodeExpr, leftIh named.1 leftWritten, rightIh named.2 rightWritten, decodeOperator_ok.mpr rfl]
      rfl
    | isNull inner negated ih =>
      obtain ⟨written, inside, same⟩ := bind_ok.mp encoded
      cases same
      rw [decodeExpr, ih named inside]
      rfl
    | cast inner dataType ih =>
      simp only [encodeExpr, bind_ok] at encoded
      obtain ⟨written, inside, code, known, same⟩ := encoded
      cases same
      rw [decodeExpr, ih named inside, decodeDataType_ok.mpr known]
      rfl
    | aliased inner column ih =>
      obtain ⟨written, inside, same⟩ := bind_ok.mp encoded
      cases same
      refine check_ok.mpr ⟨rejectIf_ok.mpr (Bool.eq_false_iff.mp named.1), ?_⟩
      rw [ih named.2 inside]
      rfl
    | aggregate function inner distinct ih =>
      obtain ⟨written, inside, same⟩ := bind_ok.mp encoded
      cases same
      rw [decodeExpr, ih named inside, decodeAggregateFunction_ok.mpr rfl]
      rfl
    | wildcard =>
      cases encoded
      rfl

end SparkX
