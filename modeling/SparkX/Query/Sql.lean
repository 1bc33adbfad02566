import SparkX.Query.Logical
import SparkX.Query.Simplify

set_option autoImplicit false

-- The planner of `session.rs` on the syntax trees of the SQL parser. A part of a tree that the
-- planner only asks whether it is there is a Boolean; one that it only prints is its text.

namespace SparkX

inductive SqlValue where
  | number (text : String)
  | singleQuotedString (text : String)
  | doubleQuotedString (text : String)
  | boolean (value : Bool)
  | null
  | other (text : String)
deriving DecidableEq

inductive BinaryOperator where
  | eq
  | notEq
  | lt
  | ltEq
  | gt
  | gtEq
  | and
  | or
  | plus
  | minus
  | multiply
  | divide
  | other (text : String)
deriving DecidableEq

inductive CastKind where
  | cast
  | doubleColon
  | other (text : String)
deriving DecidableEq

-- The target types of a cast, without the lengths and precisions that are not looked at.
inductive SqlDataType where
  | boolean | bool
  | tinyInt | int2 | smallInt | mediumInt | int | int4 | integer | int16 | int32
  | bigInt | int8 | int64 | signed | signedInteger
  | tinyIntUnsigned | int2Unsigned | smallIntUnsigned | mediumIntUnsigned | intUnsigned
  | int4Unsigned | integerUnsigned | uTinyInt | uSmallInt | uInt8 | uInt16 | uInt32
  | bigIntUnsigned | int8Unsigned | uBigInt | uInt64 | unsigned | unsignedInteger
  | float4 | float32 | real
  | float | float8 | float64 | double | doublePrecision
  | character | char | characterVarying | charVarying | varchar | nvarchar | text | string
  | other (text : String)
deriving DecidableEq

inductive DuplicateTreatment where
  | distinct
  | all
deriving DecidableEq

-- The parts of a function call that no aggregate may have.
structure FunctionOptions where
  «over» : Bool := false
  filter : Bool := false
  nullTreatment : Bool := false
  withinGroup : Bool := false
  parameters : Bool := false
deriving DecidableEq

mutual

inductive SqlExpr where
  | identifier (value : String)
  | compoundIdentifier (identifiers : List String)
  | value (value : SqlValue)
  | nested (expr : SqlExpr)
  | isNull (expr : SqlExpr)
  | isNotNull (expr : SqlExpr)
  | cast (kind : CastKind) (expr : SqlExpr) (dataType : SqlDataType) (array format : Bool)
  | binaryOp (left : SqlExpr) (op : BinaryOperator) (right : SqlExpr)
  | function (name : String) (options : FunctionOptions) (args : FunctionArguments)
  | other (text : String)

inductive FunctionArguments where
  | none
  | subquery
  | list (duplicateTreatment : Option DuplicateTreatment) (args : FunctionArgList) (clauses : Bool)

inductive FunctionArgList where
  | nil
  | cons (arg : FunctionArg) (rest : FunctionArgList)

inductive FunctionArg where
  | expr (expr : SqlExpr)
  | wildcard
  | other (text : String)

end

structure OrderByExpr where
  expr : SqlExpr
  asc : Option Bool
  nullsFirst : Option Bool
  withFill : Bool

inductive OrderByKind where
  | expressions (exprs : List OrderByExpr)
  | all

structure OrderBy where
  kind : OrderByKind
  interpolate : Bool

inductive LimitClause where
  | limitOffset (limit : Option SqlExpr) (offset limitBy : Bool)
  | offsetCommaLimit

-- A row count that is not `LIMIT`: `FETCH FIRST` of a query, `TOP` of a select.
structure RowQuantity where
  quantity : Option SqlExpr
  percent : Bool
  withTies : Bool

structure WildcardOptions where
  exclude : List String := []
  except : List String := []
  replace : List (SqlExpr × String) := []

inductive SelectItem where
  | unnamedExpr (expr : SqlExpr)
  | exprWithAlias (expr : SqlExpr) (name : String)
  | wildcard (options : WildcardOptions)
  | qualifiedWildcard
  | exprWithAliases

inductive GroupByExpr where
  | expressions (exprs : List SqlExpr) (modifiers : Bool)
  | all (modifiers : Bool)

inductive TableFactor where
  | table (name : String) (aliasName : Option String) (args : Bool)
  | other (text : String)

inductive JoinConstraint where
  | on (condition : SqlExpr)
  | other

inductive JoinOperator where
  | join (constraint : JoinConstraint)
  | inner (constraint : JoinConstraint)
  | left (constraint : JoinConstraint)
  | leftOuter (constraint : JoinConstraint)
  | other (text : String)

structure SqlJoin where
  relation : TableFactor
  joinOperator : JoinOperator

structure TableWithJoins where
  relation : TableFactor
  joins : List SqlJoin

structure Select where
  distinct : Bool := false
  top : Option RowQuantity := none
  projection : List SelectItem
  fromClause : List TableWithJoins
  selection : Option SqlExpr := none
  groupBy : GroupByExpr := .expressions [] false
  having : Option SqlExpr := none
  qualify : Option SqlExpr := none

inductive SetExpr where
  | select (select : Select)
  | other

structure Query where
  withClause : Bool := false
  body : SetExpr
  orderBy : Option OrderBy := none
  limitClause : Option LimitClause := none
  fetch : Option RowQuantity := none

-- What the planner takes from the SQL parser and from the standard library: how a tree is printed
-- and which number a text with a point or an exponent stands for.
class SqlTexts (F : Type) where
  display : SqlExpr → String
  parseFloat : String → Option F

-- The number that a text of digits stands for; there must be one digit at least.
def parseDigits (chars : List Char) : Option Nat :=
  if chars ≠ [] ∧ chars.all Char.isDigit then some (Nat.ofDigitChars 10 chars 0) else none

-- `text.parse::<i64>()`
def parseI64 (text : String) : Option (Signed 64) :=
  match text.toList with
  | '-' :: digits => (parseDigits digits).bind fun number => Signed.tryFrom (-number)
  | '+' :: digits => (parseDigits digits).bind fun number => Signed.tryFrom number
  | digits => (parseDigits digits).bind fun number => Signed.tryFrom number

-- `text.parse::<usize>()`
def parseUsize (text : String) : Option Nat :=
  match text.toList with
  | '+' :: digits => (parseDigits digits).filter (· < 2 ^ 64)
  | digits => (parseDigits digits).filter (· < 2 ^ 64)

namespace Session

variable {F : Type}

def sqlOperator : BinaryOperator → Except SparkXError Operator
  | .eq => .ok .eq
  | .notEq => .ok .notEq
  | .lt => .ok .lt
  | .ltEq => .ok .ltEq
  | .gt => .ok .gt
  | .gtEq => .ok .gtEq
  | .and => .ok .and
  | .or => .ok .or
  | .plus => .ok .add
  | .minus => .ok .subtract
  | .multiply => .ok .multiply
  | .divide => .ok .divide
  | .other text => .error (.unsupported s!"operator {text}")

def sqlDataType : SqlDataType → Except SparkXError DataType
  | .boolean | .bool => .ok .boolean
  | .tinyInt | .int2 | .smallInt | .mediumInt | .int | .int4 | .integer | .int16 | .int32 => .ok .int32
  | .bigInt | .int8 | .int64 | .signed | .signedInteger => .ok .int64
  | .tinyIntUnsigned | .int2Unsigned | .smallIntUnsigned | .mediumIntUnsigned | .intUnsigned
  | .int4Unsigned | .integerUnsigned | .uTinyInt | .uSmallInt | .uInt8 | .uInt16 | .uInt32 =>
    .ok .uint32
  | .bigIntUnsigned | .int8Unsigned | .uBigInt | .uInt64 | .unsigned | .unsignedInteger => .ok .uint64
  | .float4 | .float32 | .real => .ok .float32
  | .float | .float8 | .float64 | .double | .doublePrecision => .ok .float64
  | .character | .char | .characterVarying | .charVarying | .varchar | .nvarchar | .text | .string =>
    .ok .utf8
  | .other text => .error (.unsupported s!"CAST target type {text}")

def sqlFunction (functionName : String) : Except SparkXError AggregateFunction :=
  if functionName = "COUNT" then .ok .count
  else if functionName = "SUM" then .ok .sum
  else if functionName = "MIN" then .ok .min
  else if functionName = "MAX" then .ok .max
  else if functionName = "AVG" then .ok .avg
  else .error (.unsupported s!"function {functionName}")

variable [SqlTexts F]

def sqlValue : SqlValue → Except SparkXError (Expr F)
  | .number text =>
    if text.toList.any (fun letter => letter = '.' ∨ letter = 'e' ∨ letter = 'E') then do
      return .literal (.float64 (← okOr (SqlTexts.parseFloat text)
        (.planning s!"invalid floating-point literal {text}")))
    else do
      return .literal (.int64 (← okOr (parseI64 text) (.planning s!"invalid integer literal {text}")))
  | .singleQuotedString text | .doubleQuotedString text => return .literal (.utf8 text)
  | .boolean value => return .literal (.boolean value)
  | .null => return .literal .null
  | .other text => .error (.unsupported s!"literal {text}")

def aggregateOptions (options : FunctionOptions) : Except SparkXError Unit :=
  rejectIf (options.«over» ∨ options.filter ∨ options.nullTreatment ∨ options.withinGroup ∨
    options.parameters) (.unsupported
      "aggregate parameters, windows, filters, null treatment, or WITHIN GROUP")

def isWildcard : Expr F → Bool
  | .wildcard => true
  | _ => false

def sqlExpr : SqlExpr → Except SparkXError (Expr F)
  | .identifier value => return .column value
  | .compoundIdentifier identifiers => return .column (".".intercalate identifiers)
  | .value value => sqlValue value
  | .nested expr => sqlExpr expr
  | .isNull expr => do return .isNull (← sqlExpr expr) false
  | .isNotNull expr => do return .isNull (← sqlExpr expr) true
  | .cast kind expr dataType array format => do
    rejectIf (array ∨ format) (.unsupported "CAST ARRAY/FORMAT options")
    match kind with
    | .other text => .error (.unsupported s!"cast kind {text}")
    | _ => return .cast (← sqlExpr expr) (← sqlDataType dataType)
  | .binaryOp left op right => do return .binary (← sqlExpr left) (← sqlOperator op) (← sqlExpr right)
  | .function name options args => do
    aggregateOptions options
    let functionName := String.ofList (name.toList.map Char.toUpper)
    let aggregate ← sqlFunction functionName
    match args with
    | .list duplicateTreatment (.cons arg .nil) clauses =>
      rejectIf clauses (.unsupported "aggregate argument ORDER BY/LIMIT clauses")
      let argument ← match arg with
        | .expr expr => sqlExpr expr
        | .wildcard => .ok .wildcard
        | .other text => .error (.unsupported s!"aggregate argument {text}")
      let distinct := duplicateTreatment = some .distinct
      rejectIf (distinct ∧ isWildcard argument) (.unsupported "DISTINCT wildcard aggregate")
      return .aggregate aggregate argument distinct
    | .list _ _ _ => .error (.planning s!"{functionName} requires exactly one argument")
    | _ => .error (.planning s!"{functionName} requires arguments")
  | .other text => .error (.unsupported s!"SQL expression {text}")

section

variable [FloatOps F]

inductive JoinSide where
  | left
  | right
deriving DecidableEq

-- The side is the one on which the expression has a type; `data_type` may panic, on the left first.
def joinExpressionSide (expr : Expr F) (left right : Schema) : Except Fault JoinSide := do
  let onLeft ← succeeds (expr.dataType left)
  let onRight ← succeeds (expr.dataType right)
  match onLeft, onRight with
  | true, false => return .left
  | false, true => return .right
  | true, true => .error (.error (.planning
      s!"JOIN expression {expr.toText} is ambiguous; qualify its columns with a table name or alias"))
  | false, false => .error (.error (.planning
      s!"JOIN expression {expr.toText} does not resolve to either input"))
where
  -- `result.is_ok()`
  succeeds {α : Type} : Except Fault α → Except Fault Bool
    | .ok _ => .ok true
    | .error (.error _) => .ok false
    | .error (.panic message) => .error (.panic message)

variable (F) in
def extractJoinPairs : SqlExpr → Except SparkXError (List (SqlExpr × SqlExpr))
  | .binaryOp left .and right => do return (← extractJoinPairs left) ++ (← extractJoinPairs right)
  | .binaryOp left .eq right => return [(left, right)]
  | other => .error (.unsupported
      s!"join condition {SqlTexts.display F other}; only equality joined with AND is supported")

def joinKeys (left right : Schema) (pair : SqlExpr × SqlExpr) : Except Fault (Expr F × Expr F) := do
  let leftExpr ← sqlExpr pair.1
  let rightExpr ← sqlExpr pair.2
  match ← joinExpressionSide leftExpr left right, ← joinExpressionSide rightExpr left right with
  | .left, .right => return (leftExpr, rightExpr)
  | .right, .left => return (rightExpr, leftExpr)
  | _, _ => .error (.error (.planning "JOIN equality operands must reference opposite table sides"))

def joinConstraint : JoinOperator → Except SparkXError (JoinType × JoinConstraint)
  | .join constraint | .inner constraint => .ok (.inner, constraint)
  | .left constraint | .leftOuter constraint => .ok (.left, constraint)
  | .other text => .error (.unsupported s!"join operator {text}")

def joinCondition : JoinConstraint → Except SparkXError SqlExpr
  | .on condition => .ok condition
  | .other => .error (.unsupported "only JOIN ... ON equality constraints are supported")

def tableFactor (catalog : Catalog F) : TableFactor → Except SparkXError (LogicalPlan F × String)
  | .table name aliasName args => do
    rejectIf args (.unsupported "table-valued functions")
    let qualifier := aliasName.getD name
    let provider ← catalog.table name
    return (.ofScan name (qualifySchema provider.schema qualifier), qualifier)
  | .other text => .error (.unsupported s!"table factor {text}")

def planJoin (catalog : Catalog F) (left : LogicalPlan F) (leftQualifier : String) (join : SqlJoin) :
    Except Fault (LogicalPlan F) := do
  let (right, rightQualifier) ← tableFactor catalog join.relation
  rejectIf (leftQualifier = rightQualifier) (Fault.error (.planning
    s!"table qualifier '{leftQualifier}' is used more than once; add unique aliases"))
  let (joinType, constraint) ← joinConstraint join.joinOperator
  let condition ← joinCondition constraint
  let pairs ← extractJoinPairs F condition
  let keys ← pairs.mapM (joinKeys left.schema right.schema)
  LogicalPlan.ofJoin left right joinType (keys.map (·.1)) (keys.map (·.2))

def planFrom (catalog : Catalog F) (tables : TableWithJoins) : Except Fault (LogicalPlan F) := do
  rejectIf (1 < tables.joins.length) (Fault.error (.unsupported "more than one JOIN in a SELECT"))
  let (plan, leftQualifier) ← tableFactor catalog tables.relation
  -- There is one join at most.
  match tables.joins with
  | join :: _ => planJoin catalog plan leftQualifier join
  | [] => return plan

def selectItem : SelectItem → Except SparkXError (Expr F)
  | .unnamedExpr expr => sqlExpr expr
  | .exprWithAlias expr name => do return .aliased (← sqlExpr expr) name
  | .wildcard _ => return .wildcard
  | .qualifiedWildcard => .error (.unsupported "qualified wildcard projection")
  | .exprWithAliases => .error (.unsupported "multi-alias projection")

def groupExprs (projection : List (Expr F)) : GroupByExpr → Except SparkXError (List (Expr F))
  | .expressions exprs modifiers => do
    rejectIf modifiers (.unsupported "GROUP BY modifiers")
    exprs.mapM sqlExpr
  -- The modifiers of `GROUP BY ALL` are not looked at.
  | .all _ => return projection.filter (!·.containsAggregate)

def isAggregate (expr : Expr F) : Bool :=
  match expr.unalias with
  | .aggregate _ _ _ => true
  | _ => false

def aggregateExprs (projection : List (Expr F)) : Except SparkXError (List (Expr F)) :=
  let aggregates := projection.filter (·.containsAggregate)
  match aggregates.find? (!isAggregate ·) with
  | some expression => .error (.unsupported
      s!"aggregate expressions must be directly projected; got {expression.toText}")
  | none => .ok aggregates

def planFilter (plan : LogicalPlan F) : Option SqlExpr → Except Fault (LogicalPlan F)
  | some expr => do plan.ofFilter (← sqlExpr expr)
  | none => return plan

def planSelect (catalog : Catalog F) (select : Select) : Except Fault (LogicalPlan F) := do
  rejectIf select.distinct (Fault.error (.unsupported "SELECT DISTINCT"))
  match select.fromClause with
  | [tables] =>
    let plan ← planFrom catalog tables
    let plan ← planFilter plan select.selection
    let projection ← select.projection.mapM fun item => liftM (selectItem item : Except SparkXError (Expr F))
    let groups ← groupExprs projection select.groupBy
    let aggregates ← aggregateExprs projection
    if groups ≠ [] ∨ aggregates ≠ [] then
      let plan ← plan.ofAggregate groups aggregates
      let plan ← plan.ofProject (projection.map fun expr => .column expr.name)
      planFilter plan select.having
    else plan.ofProject projection
  | _ => .error (.error (.planning "a SELECT must contain exactly one FROM relation"))

def sortExpr (order : OrderByExpr) : Except SparkXError (SortExpr F) := do
  rejectIf order.withFill (.unsupported "ORDER BY WITH FILL")
  let ascending := order.asc.getD true
  return { expr := ← sqlExpr order.expr, ascending, nullsFirst := order.nullsFirst.getD (!ascending) }

def orderExprs (orderBy : OrderBy) : Except SparkXError (List (SortExpr F)) := do
  rejectIf orderBy.interpolate (.unsupported "ORDER BY INTERPOLATE")
  match orderBy.kind with
  | .expressions exprs => exprs.mapM sortExpr
  | .all => .error (.unsupported "ORDER BY ALL")

def planSort (plan : LogicalPlan F) : Option OrderBy → Except Fault (LogicalPlan F)
  | some orderBy => do plan.ofSort (← orderExprs orderBy)
  | none => return plan

def parseLimit : Option LimitClause → Except SparkXError (Option Nat)
  | none => return none
  | some (.limitOffset limit offset limitBy) => do
    rejectIf (offset ∨ limitBy) (.unsupported "LIMIT OFFSET/BY")
    match limit with
    | some (.value (.number text)) => return some (← okOr (parseUsize text) (.planning s!"invalid LIMIT {text}"))
    | _ => .error (.planning "LIMIT must be an integer literal")
  | some .offsetCommaLimit => .error (.unsupported "LIMIT offset, count")

def planQuery (catalog : Catalog F) (query : Query) : Except Fault (LogicalPlan F) := do
  rejectIf query.withClause (Fault.error (.unsupported "CTEs are not implemented yet"))
  match query.body with
  | .select select =>
    let plan ← planSelect catalog select
    let plan ← planSort plan query.orderBy
    match ← parseLimit query.limitClause with
    | some limit => return plan.ofLimit limit
    | none => return plan
  | .other => .error (.error (.unsupported "UNION, INTERSECT, and EXCEPT are not implemented yet"))

end

end Session

end SparkX
