import SparkX.Query.Batch
import SparkX.Shared.Rowwise

set_option autoImplicit false

-- `evaluate` computes an expression on a whole batch with Arrow's kernels. The kernels work slot by
-- slot; what they compute on two slots is written out here for the types that the engine names.
-- Casts, sorts and what Arrow does with values of other types are taken from `ArrowKernels`.

namespace SparkX

inductive Operator where
  | eq
  | notEq
  | lt
  | ltEq
  | gt
  | gtEq
  | and
  | or
  | add
  | subtract
  | multiply
  | divide
deriving DecidableEq, Repr

inductive AggregateFunction where
  | count
  | sum
  | sumUInt64
  | min
  | max
  | avg
deriving DecidableEq, Repr

inductive Expr (F : Type) where
  | column (name : String)
  | literal (value : ScalarValue F)
  | binary (left : Expr F) (op : Operator) (right : Expr F)
  | isNull (expr : Expr F) (negated : Bool)
  | cast (expr : Expr F) (dataType : DataType)
  | aliased (expr : Expr F) (name : String)
  | aggregate (function : AggregateFunction) (expr : Expr F) (distinct : Bool)
  | wildcard
deriving DecidableEq

def AggregateFunction.toText : AggregateFunction → String
  | .count => "COUNT"
  | .sum => "SUM"
  | .sumUInt64 => "SUMUINT64"
  | .min => "MIN"
  | .max => "MAX"
  | .avg => "AVG"

structure SortColumn (F : Type) where
  values : ArrayRef F
  descending : Bool
  nullsFirst : Bool

def SortColumn.compareAt {F : Type} [FloatOps F] (column : SortColumn F) (first second : Nat) : Ordering :=
  let left := column.values.values.getD first .null
  let right := column.values.values.getD second .null
  match left.isNull, right.isNull with
  | true, true => .eq
  | true, false => if column.nullsFirst then .lt else .gt
  | false, true => if column.nullsFirst then .gt else .lt
  | false, false => if column.descending then right.compare left else left.compare right

def compareRows {F : Type} [FloatOps F] (columns : List (SortColumn F)) (first second : Nat) : Ordering :=
  columns.foldr (fun column later => (column.compareAt first second).then later) .eq

-- The errors that Arrow's checked arithmetic has for particular values.
inductive ArithmeticError where
  | divideByZero
  | overflow (message : String)

def ArithmeticError.toError : ArithmeticError → SparkXError
  | .divideByZero => .arrow "Divide by zero error"
  | .overflow message => .arrow s!"Arithmetic overflow: {message}"

-- What the engine takes from Arrow without looking inside: which types can be cast into each other
-- and compared, the value of a cast, the arithmetic on two values of one type that the engine has no
-- name for, and the order in which a sort lists the rows, all of them or no more than a limit.
class ArrowKernels (F : Type) extends FloatOps F where
  canCast : DataType → DataType → Bool
  castValue : DataType → DataType → Value F → Value F
  hasType_castValue : ∀ source target value, (castValue source target value).hasType target = true
  canCompare : DataType → Bool
  arithmeticType : Operator → String → Option String
  arithmetic : Operator → DataType → List UInt8 → List UInt8 → Except ArithmeticError (List UInt8)
  sortIndices : List (SortColumn F) → Nat → Option Nat → List Nat
  sortIndices_perm : ∀ columns numRows, (sortIndices columns numRows none).Perm (List.range numRows)

-- A sort that leaves rows with equal keys as they came.
def stableIndices {F : Type} [FloatOps F] (columns : List (SortColumn F)) (numRows : Nat)
    (limit : Option Nat) : List Nat :=
  let sorted := (List.range numRows).insertionSort fun first second => compareRows columns first second ≠ .gt
  limit.elim sorted sorted.take

def castNumber (number : Int) : DataType → Value ℚ
  | .int32 => (Signed.tryFrom number).elim .null .int32
  | .int64 => (Signed.tryFrom number).elim .null .int64
  | .uint32 => (if number < 0 then none else Word.tryFrom number.toNat).elim .null .uint32
  | .uint64 => (if number < 0 then none else Word.tryFrom number.toNat).elim .null .uint64
  | .float32 => .float32 number
  | .float64 => .float64 number
  | _ => .null

def castExact (target : DataType) : Value ℚ → Value ℚ
  | .int32 number | .int64 number => castNumber number.value target
  | .uint32 number | .uint64 number => castNumber number.val target
  | .float32 number | .float64 number =>
    match target with
    | .float32 => .float32 number
    | .float64 => .float64 number
    | _ => .null
  | other => if other.hasType target then other else .null

theorem hasType_castNumber (number : Int) (target : DataType) :
    (castNumber number target).hasType target = true := by
  have decided {w : Nat} (word : Option (Word w)) (wrap : Word w → Value ℚ)
      (typed : ∀ word, (wrap word).hasType target = true) :
      (word.elim .null wrap).hasType target = true := by
    cases word with
    | none => exact Value.hasType_null target
    | some word => exact typed word
  have signed {w : Nat} (word : Option (Signed w)) (wrap : Signed w → Value ℚ)
      (typed : ∀ word, (wrap word).hasType target = true) :
      (word.elim .null wrap).hasType target = true := by
    cases word with
    | none => exact Value.hasType_null target
    | some word => exact typed word
  cases target with
  | int32 | int64 => exact signed _ _ fun _ => rfl
  | uint32 | uint64 => exact decided _ _ fun _ => rfl
  | _ => rfl

theorem hasType_castExact (target : DataType) (value : Value ℚ) :
    (castExact target value).hasType target = true := by
  cases value with
  | int32 number | int64 number => exact hasType_castNumber _ target
  | uint32 number | uint64 number => exact hasType_castNumber _ target
  | float32 number | float64 number => cases target <;> rfl
  | null | boolean _ | utf8 _ | other _ =>
    simp only [castExact]
    split
    next typed => exact typed
    next => exact Value.hasType_null target

-- The kernels on exact numbers, with the casts between numbers that change no value and no arithmetic
-- outside the types of the engine.
instance : ArrowKernels ℚ where
  canCast source target := source = target || source = .null || source.isNumeric && target.isNumeric
  castValue _ target value := castExact target value
  hasType_castValue _ target value := hasType_castExact target value
  canCompare _ := true
  arithmeticType _ _ := none
  arithmetic _ _ _ _ := .error .divideByZero
  sortIndices := stableIndices
  sortIndices_perm _ _ := List.perm_insertionSort _ _

namespace Operator

def toText : Operator → String
  | .eq => "="
  | .notEq => "!="
  | .lt => "<"
  | .ltEq => "<="
  | .gt => ">"
  | .gtEq => ">="
  | .and => "AND"
  | .or => "OR"
  | .add => "+"
  | .subtract => "-"
  | .multiply => "*"
  | .divide => "/"

def isArithmetic : Operator → Bool
  | .add | .subtract | .multiply | .divide => true
  | _ => false

def isLogical : Operator → Bool
  | .and | .or => true
  | _ => false

def holds : Operator → Ordering → Bool
  | .eq, found => found == .eq
  | .notEq, found => found != .eq
  | .lt, found => found == .lt
  | .ltEq, found => found != .gt
  | .gt, found => found == .gt
  | .gtEq, found => found != .lt
  | _, _ => false

-- `and_kleene` and `or_kleene`
def kleene (op : Operator) (left right : Option Bool) : Option Bool :=
  -- The value that decides alone: false for a conjunction, true for a disjunction.
  let decisive := op == .or
  if left = some decisive ∨ right = some decisive then some decisive
  else if left = none ∨ right = none then none
  else some !decisive

def integer (op : Operator) (left right : Int) : Except SparkXError Int :=
  match op with
  | .add => .ok (left + right)
  | .subtract => .ok (left - right)
  | .multiply => .ok (left * right)
  | _ => if right = 0 then .error ArithmeticError.divideByZero.toError else .ok (left.tdiv right)

def overflow (op : Operator) (left right : Int) : SparkXError :=
  (ArithmeticError.overflow s!"Overflow happened on: {left} {op.toText} {right}").toError

variable {F : Type}

def signed {w : Nat} (op : Operator) (left right : Signed w) : Except SparkXError (Signed w) := do
  okOr (Signed.tryFrom (← op.integer left.value right.value)) (op.overflow left.value right.value)

def unsigned {w : Nat} (op : Operator) (left right : Word w) : Except SparkXError (Word w) := do
  let result ← op.integer left.val right.val
  okOr (if result < 0 then none else Word.tryFrom result.toNat) (op.overflow left.val right.val)

def float [FloatOps F] (op : Operator) (left right : F) : F :=
  match op with
  | .add => FloatOps.add left right
  | .subtract => FloatOps.sub left right
  | .multiply => FloatOps.mul left right
  | _ => FloatOps.div left right

-- The checked kernels of `arrow::compute::kernels::numeric` on two slots of one type.
def numeric [ArrowKernels F] (op : Operator) (dataType : DataType) :
    Value F → Value F → Except SparkXError (Value F)
  | .null, _ | _, .null => .ok .null
  | .int32 left, .int32 right => .int32 <$> op.signed left right
  | .int64 left, .int64 right => .int64 <$> op.signed left right
  | .uint32 left, .uint32 right => .uint32 <$> op.unsigned left right
  | .uint64 left, .uint64 right => .uint64 <$> op.unsigned left right
  | .float32 left, .float32 right => .ok (.float32 (FloatOps.narrow (op.float left right)))
  | .float64 left, .float64 right => .ok (.float64 (op.float left right))
  | .other left, .other right =>
    .other <$> (ArrowKernels.arithmetic F op dataType left right).mapError (·.toError)
  | _, _ => .error (.arrow "Invalid argument error: Invalid arithmetic operation")

def apply [ArrowKernels F] (op : Operator) (dataType : DataType) (left right : Value F) :
    Except SparkXError (Value F) :=
  if op.isArithmetic then op.numeric dataType left right
  else if op.isLogical then .ok (.ofBool (op.kleene left.toBool right.toBool))
  else if left.isNull || right.isNull then .ok .null
  else .ok (.boolean (op.holds (left.compare right)))

def invalid (op : Operator) (kind : String) (dataType : DataType) : SparkXError :=
  .arrow s!"Invalid argument error: Invalid {kind} operation: {dataType.toText} {op.toText} {dataType.toText}"

def arithmeticType (F : Type) [ArrowKernels F] (op : Operator) : DataType → Option DataType
  | .other name => DataType.other <$> ArrowKernels.arithmeticType F op name
  | dataType => if dataType.isNumeric then some dataType else none

def outputType (F : Type) [ArrowKernels F] (op : Operator) (dataType : DataType) :
    Except SparkXError DataType :=
  if op.isArithmetic then okOr (op.arithmeticType F dataType) (op.invalid "arithmetic" dataType)
  else if op.isLogical then
    if dataType = .boolean then .ok .boolean else .error (.execution "boolean expression expected")
  else if ArrowKernels.canCompare F dataType then .ok .boolean
  else .error (op.invalid "comparison" dataType)

def targetType (op : Operator) (left right : DataType) : Option DataType :=
  if op.isArithmetic then left.commonNumericType right
  else match left, right with
    | .null, other => some other
    | other, .null => some other
    | _, _ => left.commonNumericType right

variable {op : Operator} {dataType output : DataType}

theorem arithmeticType_eq_some [ArrowKernels F] :
    op.arithmeticType F dataType = some output ↔ dataType.isNumeric = true ∧ output = dataType ∨
      ∃ name out, dataType = .other name ∧ ArrowKernels.arithmeticType F op name = some out ∧
        output = .other out := by
  cases dataType <;> simp [arithmeticType, DataType.isNumeric, eq_comm]

theorem hasType_numeric [ArrowKernels F] {left right value : Value F}
    (known : op.arithmeticType F dataType = some output) (leftTyped : left.hasType dataType = true)
    (applied : op.numeric dataType left right = .ok value) : value.hasType output = true := by
  have named (differs : ∀ name, dataType ≠ .other name) : output = dataType := by
    rcases arithmeticType_eq_some.mp known with ⟨_, same⟩ | ⟨name, _, unnamed, _⟩
    · exact same
    · exact absurd unnamed (differs name)
  unfold numeric at applied
  split at applied
  case h_1 | h_2 =>
    cases applied
    exact Value.hasType_null output
  case h_9 =>
    obtain ⟨result, _, rfl⟩ := map_eq_ok.mp applied
    cases dataType <;> cases leftTyped
    obtain ⟨out, _, rfl⟩ := Option.map_eq_some_iff.mp known
    rfl
  case h_10 => cases applied
  case h_7 | h_8 =>
    cases applied
    cases dataType <;> cases leftTyped
    exact named (by simp) ▸ rfl
  all_goals
    obtain ⟨result, _, rfl⟩ := map_eq_ok.mp applied
    cases dataType <;> cases leftTyped
    exact named (by simp) ▸ rfl

theorem hasType_apply [ArrowKernels F] {left right value : Value F}
    (known : op.outputType F dataType = .ok output) (leftTyped : left.hasType dataType = true)
    (applied : op.apply dataType left right = .ok value) : value.hasType output = true := by
  unfold outputType at known
  unfold apply at applied
  split at known
  next arithmetic =>
    rw [if_pos arithmetic] at applied
    exact hasType_numeric (okOr_ok.mp known) leftTyped applied
  next other =>
    rw [if_neg other] at applied
    have boolean : output = .boolean := by
      split at known <;> split at known <;> first | exact (Except.ok.inj known).symm | cases known
    subst boolean
    split at applied
    · cases applied
      exact Value.hasType_ofBool _
    · split at applied <;> obtain rfl := Except.ok.inj applied <;> rfl

end Operator

def Expr.unalias {F : Type} : Expr F → Expr F
  | .aliased expr _ => expr
  | expr => expr

def Expr.toText {F : Type} [FloatOps F] : Expr F → String
  | .column name => s!"#{name}"
  | .literal value => value.toText
  | .binary left op right => s!"({left.toText} {op.toText} {right.toText})"
  | .isNull expr negated => s!"({expr.toText} IS " ++ (if negated then "NOT " else "") ++ "NULL)"
  | .cast expr dataType => s!"CAST({expr.toText} AS {dataType.toText})"
  | .aliased expr name => s!"{expr.toText} AS {name}"
  | .aggregate function expr distinct =>
    s!"{function.toText}(" ++ (if distinct then "DISTINCT " else "") ++ s!"{expr.toText})"
  | .wildcard => "*"

section

variable {F : Type} [ArrowKernels F]

namespace ArrayRef

def castSlots (array : ArrayRef F) (target : DataType) : ArrayRef F :=
  { dataType := target
    values := array.values.map (ArrowKernels.castValue array.dataType target)
    typed := by
      intro value member
      obtain ⟨old, _, rfl⟩ := List.mem_map.mp member
      exact ArrowKernels.hasType_castValue array.dataType target old }

-- `cast`, which turns values without a counterpart in the target type into nulls.
def cast (array : ArrayRef F) (target : DataType) : Except SparkXError (ArrayRef F) := do
  rejectIf (ArrowKernels.canCast F array.dataType target = false) (.arrow
    s!"Cast error: Casting from {array.dataType.toText} to {target.toText} not supported")
  return array.castSlots target

end ArrayRef

namespace Operator

def kernel (op : Operator) (left right : ArrayRef F) : Except SparkXError (ArrayRef F) :=
  match known : op.outputType F left.dataType with
  | .error error => .error error
  | .ok output =>
    match applied : (left.values.zip right.values).mapM fun pair =>
        op.apply left.dataType pair.1 pair.2 with
    | .error error => .error error
    | .ok values => .ok
      { dataType := output
        values
        typed := by
          intro value member
          obtain ⟨pair, inside, found⟩ := Rowwise.forall₂_mem (Rowwise.mapM_ok.mp applied) member
          exact hasType_apply known (left.typed _ (List.of_mem_zip inside).1) found }

def combine (op : Operator) (left right : ArrayRef F) (numRows : Nat) :
    Except SparkXError (ArrayRef F) :=
  if left.dataType = .null ∧ right.dataType = .null then
    if op.isArithmetic then
      .error (.execution "cannot infer the type of arithmetic on NULL values")
    else .ok (.booleans (List.replicate numRows none))
  else if left.dataType = right.dataType then op.kernel left right
  else do
    let target ← okOr (op.targetType left.dataType right.dataType) (.execution
      s!"cannot apply {op.toText} to {left.dataType.toText} and {right.dataType.toText}")
    op.kernel (← left.cast target) (← right.cast target)

end Operator

def evaluate : Expr F → RecordBatch F → Except Fault (ArrayRef F)
  | .column name, batch => do
    let index ← batch.schema.resolveFieldIndex name
    expect (batch.column index) "index out of bounds"
  | .literal value, batch => .ok (.scalarArray value batch.numRows)
  | .binary left op right, batch => do
    op.combine (← evaluate left batch) (← evaluate right batch) batch.numRows
  | .isNull expr negated, batch => do
    let array ← evaluate expr batch
    return .booleans (array.values.map fun value => some (value.isNull != negated))
  | .cast expr dataType, batch => do (← evaluate expr batch).cast dataType
  -- `unalias` looks through one alias only, and the match behind it has no case for another.
  | .aliased (.aliased _ _) _, _ => .error (.panic "internal error: entered unreachable code")
  | .aliased expr _, batch => evaluate expr batch
  | .aggregate _ _ _, _ =>
    .error (.error (.execution "aggregate expression cannot be evaluated row-wise"))
  | .wildcard, _ => .error (.error (.execution "wildcard must be expanded before execution"))

end

end SparkX
