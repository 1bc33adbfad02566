import SparkX.Cluster.PlanCodec.Wire

set_option autoImplicit false

-- `encodePlan` and `decodePlan` on wire trees, the check that the coordinator makes without a
-- catalog, and both on bytes. `usize` has 64 bits.

namespace SparkX

variable {F : Type}

def planCodecVersion : U32 := 2

def maxPlanFragmentBytes : Nat := 16 * 1024 * 1024

def maxPlanDepth : Nat := 128

def checkDepth (depth : Nat) : Except SparkXError Unit :=
  rejectIf (maxPlanDepth ≤ depth) (codecError s!"plan exceeds maximum nesting depth {maxPlanDepth}")

def checkedU32 (name : String) (value : Nat) : Except SparkXError U32 :=
  okOr (Word.tryFrom value) (codecError s!"{name} {value} exceeds u32")

def checkedU64 (name : String) (value : Nat) : Except SparkXError U64 :=
  okOr (Word.tryFrom value) (codecError s!"{name} {value} exceeds u64")

def encodeSortExpr (sort : SortExpr F) : Except SparkXError (WireSortExpr F) := do
  return {
    expr := ← encodeExpr sort.expr
    ascending := sort.ascending
    nullsFirst := sort.nullsFirst }

def encodePlan : Nat → PhysicalPlan F → Except SparkXError (WirePlan F)
  | depth, .scan id tableName _ projection filters schema => do
    checkDepth depth
    let indices ← (projection.getD []).mapM (checkedU32 "scan projection index")
    let filters ← filters.mapM encodeExpr
    return .scan id tableName projection.isSome indices filters (some (← encodeSchema schema))
  | depth, .projection id input exprs schema => do
    checkDepth depth
    let input ← encodePlan (depth + 1) input
    let exprs ← exprs.mapM encodeExpr
    return .projection id input exprs (some (← encodeSchema schema))
  | depth, .filter id input predicate schema => do
    checkDepth depth
    let input ← encodePlan (depth + 1) input
    let predicate ← encodeExpr predicate
    return .filter id input predicate (some (← encodeSchema schema))
  | depth, .hashAggregate id input groupExprs aggregateExprs schema => do
    checkDepth depth
    let input ← encodePlan (depth + 1) input
    let groupExprs ← groupExprs.mapM encodeExpr
    let aggregateExprs ← aggregateExprs.mapM encodeExpr
    return .hashAggregate id input groupExprs aggregateExprs (some (← encodeSchema schema))
  | depth, .sort id input exprs schema => do
    checkDepth depth
    let input ← encodePlan (depth + 1) input
    let exprs ← exprs.mapM encodeSortExpr
    return .sort id input exprs (some (← encodeSchema schema))
  | depth, .topK id input exprs limit schema => do
    checkDepth depth
    let input ← encodePlan (depth + 1) input
    let exprs ← exprs.mapM encodeSortExpr
    let limit ← checkedU64 "Top-K limit" limit
    return .topK id input exprs limit (some (← encodeSchema schema))
  | depth, .limit id input limit schema => do
    checkDepth depth
    let input ← encodePlan (depth + 1) input
    let limit ← checkedU64 "limit" limit
    return .limit id input limit (some (← encodeSchema schema))
  | depth, .hashJoin id left right joinType leftOn rightOn schema => do
    checkDepth depth
    let left ← encodePlan (depth + 1) left
    let right ← encodePlan (depth + 1) right
    let leftOn ← leftOn.mapM encodeExpr
    let rightOn ← rightOn.mapM encodeExpr
    return .hashJoin id left right (encodeJoinType joinType) leftOn rightOn (some (← encodeSchema schema))

def decodeExprs (exprs : List (WireExpr F)) : Except SparkXError (List (Expr F)) :=
  exprs.mapM (decodeExpr "expression")

def decodeSortExpr (schema : Schema) (sort : WireSortExpr F) : Except Fault (SortExpr F) := do
  let expr ← decodeExpr "sort expression" sort.expr
  let _ ← expr.dataType schema
  return { expr, ascending := sort.ascending, nullsFirst := sort.nullsFirst }

def decodeSortExprs (exprs : List (WireSortExpr F)) (schema : Schema) :
    Except Fault (List (SortExpr F)) := do
  let decoded ← exprs.mapM (decodeSortExpr schema)
  rejectIf decoded.isEmpty (Fault.error (codecError "sort operator requires at least one expression"))
  return decoded

def decodeProjection (hasProjection : Bool) (indices : List U32) :
    Except SparkXError (Option (List Nat)) :=
  if hasProjection then .ok (some (indices.map (·.val)))
  else if indices.isEmpty then .ok none
  else .error (codecError "scan projection contains indices while has_projection is false")

-- Whether a field of the fragment stands for a field of the worker's table.
def Field.matches (expected actual : Field) : Prop :=
  unqualified expected.name = unqualified actual.name ∧ expected.dataType = actual.dataType ∧
    expected.nullable = actual.nullable ∧ expected.metadata = actual.metadata

instance (expected actual : Field) : Decidable (expected.matches actual) :=
  inferInstanceAs (Decidable (_ ∧ _))

def validateScanSchema (tableName : String) (providerSchema : Schema)
    (projection : Option (List Nat)) (fragmentSchema : Schema) : Except SparkXError Unit := do
  (projection.getD []).forM fun index =>
    rejectIf (providerSchema.fields.length ≤ index) (codecError
      s!"scan projection index {index} is outside table '{tableName}' schema")
  let actual := projectedSchema providerSchema projection
  rejectIf (actual.fields.length ≠ fragmentSchema.fields.length) (codecError
    s!"scan schema for table '{tableName}' has {fragmentSchema.fields.length} fields but worker catalog provides {actual.fields.length}")
  (fragmentSchema.fields.zip actual.fields).forM fun pair =>
    rejectIf (¬pair.1.matches pair.2) (codecError
      s!"scan field '{pair.1.name}' does not match worker catalog field '{pair.2.name}' for table '{tableName}'")

def validateSchema (operator : String) (actual expected : Schema) : Except SparkXError Unit :=
  rejectIf (actual ≠ expected) (codecError
    s!"{operator} output schema does not match its decoded expressions or inputs")

def schemaForExprs [FloatOps F] (exprs : List (Expr F)) (input : Schema) : Except Fault Schema := do
  return { fields := ← exprs.mapM (·.field input) }

def validateJoinKey (leftSchema rightSchema : Schema) (keys : Expr F × Expr F) :
    Except Fault Unit := do
  let leftType ← keys.1.dataType leftSchema
  let rightType ← keys.2.dataType rightSchema
  rejectIf (leftType ≠ rightType) (Fault.error (codecError
    s!"hash join key types differ: {leftType.toText} versus {rightType.toText}"))

def validateJoinKeys (left : List (Expr F)) (leftSchema : Schema) (right : List (Expr F))
    (rightSchema : Schema) : Except Fault Unit := do
  rejectIf (left.isEmpty ∨ left.length ≠ right.length) (Fault.error (codecError
    "hash join requires the same non-zero number of left and right keys"))
  (left.zip right).forM (validateJoinKey leftSchema rightSchema)

-- `catalog.table` with the error of the codec
def resolveTable (catalog : Catalog F) (tableName : String) :
    Except SparkXError (TableProvider F) :=
  (catalog.table tableName).mapError fun error =>
    codecError s!"worker cannot resolve scan table '{tableName}': {error.toText}"

-- `decode_plan` of a required field; `name` is the field that the error names.
def decodePlan [FloatOps F] (catalog : Catalog F) :
    Nat → String → WirePlan F → Except Fault (PhysicalPlan F)
  | _, name, .absent => (missing name : Except SparkXError _)
  | depth, _, .unset => do
    checkDepth depth
    (missing "plan operator" : Except SparkXError _)
  | depth, _, .scan id tableName hasProjection projection filters schema => do
    checkDepth depth
    rejectIf (Text.isBlank tableName) (Fault.error (codecError "scan table name must not be empty"))
    let provider ← resolveTable catalog tableName
    let projection ← decodeProjection hasProjection projection
    let schema ← decodeRequiredSchema schema "scan"
    validateScanSchema tableName provider.schema projection schema
    return .scan id tableName provider projection (← decodeExprs filters) schema
  | depth, _, .projection id input exprs schema => do
    checkDepth depth
    let input ← decodePlan catalog (depth + 1) "projection input" input
    let exprs ← decodeExprs exprs
    let schema ← decodeRequiredSchema schema "projection"
    validateSchema "projection" schema (← schemaForExprs exprs input.schema)
    return .projection id input exprs schema
  | depth, _, .filter id input predicate schema => do
    checkDepth depth
    let input ← decodePlan catalog (depth + 1) "filter input" input
    let predicate ← decodeExpr "filter predicate" predicate
    let dataType ← predicate.dataType input.schema
    rejectIf (dataType ≠ .boolean) (Fault.error (codecError "filter predicate must be Boolean"))
    let schema ← decodeRequiredSchema schema "filter"
    validateSchema "filter" schema input.schema
    return .filter id input predicate schema
  | depth, _, .hashAggregate id input groupExprs aggregateExprs schema => do
    checkDepth depth
    let input ← decodePlan catalog (depth + 1) "hash aggregate input" input
    let groupExprs ← decodeExprs groupExprs
    let aggregateExprs ← decodeExprs aggregateExprs
    let schema ← decodeRequiredSchema schema "hash aggregate"
    validateSchema "hash aggregate" schema (← schemaForExprs (groupExprs ++ aggregateExprs) input.schema)
    return .hashAggregate id input groupExprs aggregateExprs schema
  | depth, _, .sort id input exprs schema => do
    checkDepth depth
    let input ← decodePlan catalog (depth + 1) "sort input" input
    let exprs ← decodeSortExprs exprs input.schema
    let schema ← decodeRequiredSchema schema "sort"
    validateSchema "sort" schema input.schema
    return .sort id input exprs schema
  | depth, _, .topK id input exprs limit schema => do
    checkDepth depth
    let input ← decodePlan catalog (depth + 1) "Top-K input" input
    let exprs ← decodeSortExprs exprs input.schema
    let schema ← decodeRequiredSchema schema "Top-K"
    validateSchema "Top-K" schema input.schema
    return .topK id input exprs limit.val schema
  | depth, _, .limit id input limit schema => do
    checkDepth depth
    let input ← decodePlan catalog (depth + 1) "limit input" input
    let schema ← decodeRequiredSchema schema "limit"
    validateSchema "limit" schema input.schema
    return .limit id input limit.val schema
  | depth, _, .hashJoin id left right joinType leftOn rightOn schema => do
    checkDepth depth
    let left ← decodePlan catalog (depth + 1) "join left input" left
    let right ← decodePlan catalog (depth + 1) "join right input" right
    let joinType ← decodeJoinType joinType
    let leftOn ← decodeExprs leftOn
    let rightOn ← decodeExprs rightOn
    validateJoinKeys leftOn left.schema rightOn right.schema
    let schema ← decodeRequiredSchema schema "hash join"
    validateSchema "hash join" schema (joinSchema left.schema right.schema joinType)
    return .hashJoin id left right joinType leftOn rightOn schema

def validateWireExpr (name : String) (expr : WireExpr F) : Except SparkXError Unit := do
  let _ ← decodeExpr name expr

def validateWireExprs (exprs : List (WireExpr F)) : Except SparkXError Unit :=
  exprs.forM (validateWireExpr "expression")

def validateWireSortExprs (exprs : List (WireSortExpr F)) : Except SparkXError Unit := do
  rejectIf exprs.isEmpty (codecError "sort operator requires at least one expression")
  exprs.forM fun sort => validateWireExpr "sort expression" sort.expr

def validateWireSchema (schema : Option WireSchema) (operator : String) : Except SparkXError Unit := do
  let _ ← decodeRequiredSchema schema operator

-- `validate_wire_plan` of a required field
def validateWirePlan : Nat → String → WirePlan F → Except SparkXError Unit
  | _, name, .absent => missing name
  | depth, _, .unset => do
    checkDepth depth
    missing "plan operator"
  | depth, _, .scan _ tableName hasProjection projection filters schema => do
    checkDepth depth
    rejectIf (Text.isBlank tableName) (codecError "scan table name must not be empty")
    let _ ← decodeProjection hasProjection projection
    validateWireSchema schema "scan"
    validateWireExprs filters
  | depth, _, .projection _ input exprs schema => do
    checkDepth depth
    validateWirePlan (depth + 1) "projection input" input
    validateWireSchema schema "projection"
    validateWireExprs exprs
  | depth, _, .filter _ input predicate schema => do
    checkDepth depth
    validateWirePlan (depth + 1) "filter input" input
    validateWireSchema schema "filter"
    validateWireExpr "filter predicate" predicate
  | depth, _, .hashAggregate _ input groupExprs aggregateExprs schema => do
    checkDepth depth
    validateWirePlan (depth + 1) "hash aggregate input" input
    validateWireSchema schema "hash aggregate"
    validateWireExprs groupExprs
    validateWireExprs aggregateExprs
  | depth, _, .sort _ input exprs schema => do
    checkDepth depth
    validateWirePlan (depth + 1) "sort input" input
    validateWireSchema schema "sort"
    validateWireSortExprs exprs
  | depth, _, .topK _ input exprs _ schema => do
    checkDepth depth
    validateWirePlan (depth + 1) "Top-K input" input
    validateWireSchema schema "Top-K"
    validateWireSortExprs exprs
  | depth, _, .limit _ input _ schema => do
    checkDepth depth
    validateWirePlan (depth + 1) "limit input" input
    validateWireSchema schema "limit"
  | depth, _, .hashJoin _ left right joinType leftOn rightOn schema => do
    checkDepth depth
    validateWirePlan (depth + 1) "join left input" left
    validateWirePlan (depth + 1) "join right input" right
    let _ ← decodeJoinType joinType
    validateWireSchema schema "hash join"
    rejectIf (leftOn.length ≠ rightOn.length) (codecError
      s!"hash join has {leftOn.length} left keys but {rightOn.length} right keys")
    validateWireExprs leftOn
    validateWireExprs rightOn

structure WirePlanEnvelope (F : Type) where
  version : U32
  root : WirePlan F

-- The Protobuf library. Decoding is total; what it makes of a message it encoded is said where it
-- is needed.
structure Prost (F : Type) where
  encodeToVec : WirePlanEnvelope F → List UInt8
  decode : List UInt8 → Except String (WirePlanEnvelope F)

def validateFragmentSize (bytes : Nat) : Except SparkXError Unit := do
  rejectIf (bytes = 0) (codecError "plan fragment must not be empty")
  rejectIf (maxPlanFragmentBytes < bytes) (codecError
    s!"plan fragment is {bytes} bytes; maximum is {maxPlanFragmentBytes} bytes")

def decodeEnvelope (prost : Prost F) (bytes : List UInt8) : Except SparkXError (WirePlan F) := do
  validateFragmentSize bytes.length
  let envelope ← (prost.decode bytes).mapError fun error =>
    codecError s!"cannot decode Protobuf envelope: {error}"
  rejectIf (envelope.version ≠ planCodecVersion) (codecError
    s!"unsupported plan codec version {envelope.version}; expected {planCodecVersion}")
  match envelope.root with
  | .absent => .error (codecError "plan envelope has no root operator")
  | root => .ok root

namespace PlanCodec

def encode (prost : Prost F) (plan : PhysicalPlan F) : Except SparkXError (List UInt8) := do
  let bytes := prost.encodeToVec { version := planCodecVersion, root := ← encodePlan 0 plan }
  validateFragmentSize bytes.length
  return bytes

def validateFragment (prost : Prost F) (bytes : List UInt8) : Except SparkXError Unit := do
  validateWirePlan 0 "root" (← decodeEnvelope prost bytes)

def decode [FloatOps F] (prost : Prost F) (bytes : List UInt8) (catalog : Catalog F) :
    Except Fault (PhysicalPlan F) := do
  decodePlan catalog 0 "root" (← decodeEnvelope prost bytes)

end PlanCodec

end SparkX
