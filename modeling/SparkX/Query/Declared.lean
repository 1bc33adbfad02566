import SparkX.Query.Meaning
import SparkX.Query.Typing

set_option autoImplicit false

namespace SparkX

variable {F : Type}

def Schema.Declares (input scanned : Schema) : Prop :=
  ∀ name here there, scanned.resolveFieldIndex name = .ok here → input.resolveFieldIndex name = .ok there →
    scanned.types[here]? = input.types[there]?

theorem Schema.declares_self (schema : Schema) : schema.Declares schema := by
  intro name here there first second
  rw [Except.ok.inj (first.symm.trans second)]

def DataType.Widens (computed declared : DataType) : Prop :=
  declared = computed ∨ computed.normalizedNumericType = some declared

variable {dataType : DataType}

namespace DataType

theorem Widens.refl (dataType : DataType) : dataType.Widens dataType := .inl rfl

variable {declared : DataType}

theorem Widens.null (widens : DataType.null.Widens declared) : declared = .null :=
  widens.elim id nofun

theorem commonNumericType_left {computed : DataType} (widens : computed.Widens declared) (right : DataType) :
    computed.commonNumericType right = declared.commonNumericType right := by
  rcases widens with rfl | normalized
  · rfl
  · cases computed <;> cases normalized <;> cases right <;> rfl

theorem commonNumericType_right {computed : DataType} (widens : computed.Widens declared) (left : DataType) :
    left.commonNumericType computed = left.commonNumericType declared := by
  rcases widens with rfl | normalized
  · rfl
  · cases computed <;> cases normalized <;> cases left <;> rfl

theorem commonNumericType_self (numeric : dataType.isNumeric = true) :
    dataType.commonNumericType dataType = dataType.normalizedNumericType := by
  cases dataType with
  | int32 | int64 | uint32 | uint64 | float32 | float64 => rfl
  | null | boolean | utf8 | other => cases numeric

def isNarrow : DataType → Bool
  | .int32 | .uint32 | .float32 => true
  | _ => false

theorem isNumeric_of_normalized {wide : DataType} (normalized : dataType.normalizedNumericType = some wide) :
    dataType.isNumeric = true := by
  cases dataType <;> first | rfl | cases normalized

theorem commonNumericType_wide {left right common : DataType}
    (found : left.commonNumericType right = some common) :
    common.normalizedNumericType = some common ∧ common.isNarrow = false := by
  cases left <;> cases right <;> cases found <;> exact ⟨rfl, rfl⟩

def isNamed : DataType → Bool
  | .other _ => false
  | _ => true

theorem isNamed_iff : dataType.isNamed = true ↔ ∀ name, dataType ≠ .other name := by
  cases dataType <;> simp [isNamed]

theorem commonNumericType_numeric {left right common : DataType}
    (found : left.commonNumericType right = some common) : common.isNumeric = true :=
  isNumeric_of_normalized (commonNumericType_wide found).1

end DataType

section

variable [ArrowKernels F]

namespace Operator

variable {op : Operator}

theorem outputType_arithmetic (arithmetic : op.isArithmetic = true) {output : DataType} :
    op.outputType F dataType = .ok output ↔ op.arithmeticType F dataType = some output := by
  rw [outputType, if_pos arithmetic, okOr_ok]

theorem arithmeticType_numeric (numeric : dataType.isNumeric = true) :
    op.arithmeticType F dataType = some dataType :=
  arithmeticType_eq_some.mpr (.inl ⟨numeric, rfl⟩)

theorem outputType_boolean (other : op.isArithmetic = false) {output : DataType}
    (known : op.outputType F dataType = .ok output) : output = .boolean := by
  unfold outputType at known
  rw [other, if_neg Bool.false_ne_true] at known
  split at known <;> split at known <;> first | exact (Except.ok.inj known).symm | cases known

variable {left right : DataType}

theorem resultType_cases {computed : DataType} (found : op.resultType F left right = some computed) :
    op.isArithmetic = false ∧ computed = .boolean ∨
      op.isArithmetic = true ∧ (left = right ∧ op.arithmeticType F left = some computed ∨
        left ≠ right ∧ left.commonNumericType right = some computed) := by
  unfold resultType at found
  split at found
  next =>
    split at found
    next => cases found
    next other => exact .inl ⟨Bool.eq_false_iff.mpr other, (Option.some.inj found).symm⟩
  next =>
    cases arithmetic : op.isArithmetic with
    | false =>
      refine .inl ⟨rfl, ?_⟩
      split at found
      next => exact outputType_boolean arithmetic (toOption_eq_some.mp found)
      next =>
        obtain ⟨target, _, rest⟩ := Option.bind_eq_some_iff.mp found
        split at rest
        · exact outputType_boolean arithmetic (toOption_eq_some.mp rest)
        · cases rest
    | true =>
      refine .inr ⟨rfl, ?_⟩
      split at found
      next same => exact .inl ⟨same, (outputType_arithmetic arithmetic).mp (toOption_eq_some.mp found)⟩
      next different =>
        obtain ⟨target, targeted, rest⟩ := Option.bind_eq_some_iff.mp found
        unfold targetType at targeted
        rw [if_pos arithmetic] at targeted
        split at rest
        · have output := (outputType_arithmetic arithmetic).mp (toOption_eq_some.mp rest)
          rw [arithmeticType_numeric (DataType.commonNumericType_numeric targeted)] at output
          exact .inr ⟨different, targeted.trans output⟩
        · cases rest

theorem operandType_cases {declared : DataType} (expected : op.operandType left right = .ok declared) :
    op.isArithmetic = false ∧ declared = .boolean ∨
      op.isArithmetic = true ∧ left.commonNumericType right = some declared := by
  unfold operandType at expected
  split at expected
  next logical =>
    have other : op.isArithmetic = false := by cases op <;> first | rfl | cases logical
    split at expected
    · exact .inl ⟨other, (Except.ok.inj expected).symm⟩
    · cases expected
  next =>
    split at expected
    next arithmetic => exact .inr ⟨arithmetic, okOr_ok.mp expected⟩
    next other =>
      split at expected
      · exact .inl ⟨Bool.eq_false_iff.mpr other, (Except.ok.inj expected).symm⟩
      · cases expected

theorem operandType_isNamed {declared : DataType} (expected : op.operandType left right = .ok declared) : declared.isNamed = true := by
  rcases operandType_cases expected with ⟨_, rfl⟩ | ⟨_, common⟩
  · rfl
  · have numeric := DataType.commonNumericType_numeric common
    cases declared <;> first | rfl | cases numeric

theorem resultType_widens {leftDeclared rightDeclared computed declared : DataType}
    (leftWidens : left.Widens leftDeclared) (rightWidens : right.Widens rightDeclared)
    (found : op.resultType F left right = some computed)
    (expected : op.operandType leftDeclared rightDeclared = .ok declared) : computed.Widens declared := by
  have common : left.commonNumericType right = leftDeclared.commonNumericType rightDeclared :=
    (DataType.commonNumericType_left leftWidens right).trans
      (DataType.commonNumericType_right rightWidens leftDeclared)
  rcases resultType_cases found with ⟨other, rfl⟩ | ⟨arithmetic, kept⟩ <;>
    rcases operandType_cases expected with ⟨here, rfl⟩ | ⟨here, target⟩
  · exact .refl _
  · rw [here] at other
    cases other
  · rw [here] at arithmetic
    cases arithmetic
  · rw [← common] at target
    rcases kept with ⟨rfl, output⟩ | ⟨_, same⟩
    · rcases arithmeticType_eq_some.mp output with ⟨numeric, rfl⟩ | ⟨_, _, rfl, _⟩
      · exact .inr (DataType.commonNumericType_self numeric ▸ target)
      · cases target
    · exact .inl (Option.some.inj (target.symm.trans same))

end Operator

theorem Expr.typeIn_column {name : String} {input scanned : Schema} (declares : input.Declares scanned)
    {computed declared : DataType} (found : (Expr.column name : Expr F).typeIn scanned = some computed)
    (expected : (Expr.column name : Expr F).dataType input = .ok declared) : computed = declared := by
  obtain ⟨here, resolved, typed⟩ := Option.bind_eq_some_iff.mp found
  obtain ⟨field, looked, rfl⟩ := map_eq_ok.mp expected
  obtain ⟨there, declared, present⟩ := bind_ok.mp looked
  have same := declares name here there (Operator.toOption_eq_some.mp resolved) (lift_ok.mp declared)
  rw [typed, Schema.types, List.getElem?_map, expect_ok.mp present] at same
  exact Option.some.inj same

theorem Expr.typeIn_widens {expr : Expr F} {input scanned : Schema} (declares : input.Declares scanned)
    {computed declared : DataType} (found : expr.typeIn scanned = some computed)
    (expected : expr.dataType input = .ok declared) : computed.Widens declared := by
  induction expr generalizing computed declared with
  | column name => exact .inl (typeIn_column declares found expected).symm
  | literal value =>
    cases found
    cases expected
    exact .refl _
  | binary left op right leftIh rightIh =>
    simp only [typeIn, Option.bind_eq_bind, Option.bind_eq_some_iff] at found
    simp only [dataType, bind_ok, lift_ok] at expected
    obtain ⟨leftType, leftFound, rightType, rightFound, found⟩ := found
    obtain ⟨leftDeclared, leftExpected, rightDeclared, rightExpected, expected⟩ := expected
    exact Operator.resultType_widens (leftIh leftFound leftExpected) (rightIh rightFound rightExpected)
      found expected
  | isNull expr negated ih =>
    obtain ⟨_, _, rfl⟩ := Option.map_eq_some_iff.mp found
    cases expected
    exact .refl _
  | cast expr target ih =>
    obtain ⟨_, _, castable⟩ := Option.bind_eq_some_iff.mp found
    cases expected
    split at castable
    · exact .inl (Option.some.inj castable)
    · cases castable
  | aliased expr name ih =>
    cases expr with
    | aliased inner other => cases found
    | _ => exact ih found expected
  | aggregate function expr distinct ih => cases found
  | wildcard => cases found

end

section

theorem DataType.normalizedNumericType_self (numeric : dataType.isNumeric = true) :
    dataType.normalizedNumericType = some dataType ↔ dataType.isNarrow = false := by
  cases dataType with
  | int32 | int64 | uint32 | uint64 | float32 | float64 => decide
  | null | boolean | utf8 | other => cases numeric

def Expr.isArithmetic : Expr F → Bool
  | .binary _ op _ => op.isArithmetic
  | _ => false

-- The type of less than 64 bits, if any, in which an expression is computed: that of a column or a
-- cast, and of arithmetic on two operands of this one type.
def Expr.narrowType (schema : Schema) : Expr F → Option DataType
  | .column name => do
    (schema.types[← (schema.resolveFieldIndex name).toOption]?).filter (·.isNarrow)
  | .cast _ target => (some target).filter (·.isNarrow)
  | .aliased expr _ => expr.narrowType schema
  | .binary left op right =>
    if op.isArithmetic ∧ left.narrowType schema = right.narrowType schema then left.narrowType schema
    else none
  | _ => none

variable [ArrowKernels F]

variable {expr : Expr F} {schema : Schema} {computed : DataType}

theorem Expr.narrowType_eq (found : expr.typeIn schema = some computed) :
    expr.narrowType schema = (some computed).filter (·.isNarrow) := by
  induction expr generalizing computed with
  | column name =>
    obtain ⟨index, resolved, typed⟩ := Option.bind_eq_some_iff.mp found
    simp only [narrowType, resolved, Option.bind_eq_bind, Option.bind_some, typed]
  | literal value =>
    cases found
    cases value <;> rfl
  | binary left op right leftIh rightIh =>
    simp only [typeIn, Option.bind_eq_bind, Option.bind_eq_some_iff] at found
    obtain ⟨leftType, leftFound, rightType, rightFound, found⟩ := found
    rw [narrowType, leftIh leftFound, rightIh rightFound]
    rcases Operator.resultType_cases found with ⟨other, rfl⟩ | ⟨arithmetic, ⟨rfl, output⟩ | ⟨different, common⟩⟩
    · rw [if_neg fun both => by simp [other] at both]
      rfl
    · rw [if_pos ⟨arithmetic, rfl⟩]
      rcases Operator.arithmeticType_eq_some.mp output with ⟨_, rfl⟩ | ⟨_, _, rfl, _, rfl⟩ <;> rfl
    -- Operands of two types are not both of one narrow type, and their common type is not narrow.
    · have wide := (DataType.commonNumericType_wide common).2
      split
      next same =>
        cases narrow : leftType.isNarrow with
        | false =>
          rw [Option.filter_some, Option.filter_some, narrow, wide]
          rfl
        | true =>
          have equal := same.2
          simp only [Option.filter_some, narrow, if_true] at equal
          split at equal
          · exact absurd (Option.some.inj equal) different
          · cases equal
      next =>
        rw [Option.filter_some, wide]
        rfl
  | isNull expr negated ih =>
    obtain ⟨_, _, rfl⟩ := Option.map_eq_some_iff.mp found
    rfl
  | cast expr target ih =>
    obtain ⟨_, _, castable⟩ := Option.bind_eq_some_iff.mp found
    split at castable
    · cases castable
      rfl
    · cases castable
  | aliased expr name ih =>
    cases expr with
    | aliased inner other => cases found
    | _ => exact ih found
  | aggregate function expr distinct ih => cases found
  | wildcard => cases found

variable {declared : DataType}

theorem Expr.declared_arithmetic {left right : Expr F} {op : Operator} (arithmetic : op.isArithmetic = true)
    (found : (Expr.binary left op right).typeIn schema = some computed)
    (expected : (Expr.binary left op right).dataType schema = .ok declared) :
    computed.isNumeric = true ∧ computed.normalizedNumericType = some declared := by
  have widens := typeIn_widens schema.declares_self found expected
  simp only [typeIn, Option.bind_eq_bind, Option.bind_eq_some_iff] at found
  simp only [dataType, bind_ok, lift_ok] at expected
  obtain ⟨leftType, leftFound, rightType, rightFound, found⟩ := found
  obtain ⟨leftDeclared, leftExpected, rightDeclared, rightExpected, expected⟩ := expected
  rcases Operator.operandType_cases expected with ⟨other, _⟩ | ⟨_, target⟩
  · rw [arithmetic] at other
    cases other
  rcases widens with rfl | normalized
  · have wide := (DataType.commonNumericType_wide target).1
    exact ⟨DataType.isNumeric_of_normalized wide, wide⟩
  · exact ⟨DataType.isNumeric_of_normalized normalized, normalized⟩

theorem Expr.declared_unalias (arithmetic : expr.unalias.isArithmetic = true)
    (found : expr.typeIn schema = some computed) (expected : expr.dataType schema = .ok declared) :
    computed.isNumeric = true ∧ computed.normalizedNumericType = some declared := by
  cases expr with
  | binary left op right => exact declared_arithmetic arithmetic found expected
  | aliased expr name =>
    cases expr with
    | binary left op right => exact declared_arithmetic arithmetic found expected
    | _ => cases arithmetic
  | _ => cases arithmetic

theorem Expr.declared_other (other : expr.unalias.isArithmetic = false)
    (found : expr.typeIn schema = some computed) (expected : expr.dataType schema = .ok declared) :
    computed = declared := by
  induction expr with
  | column name => exact typeIn_column schema.declares_self found expected
  | literal value => exact (Option.some.inj found).symm.trans (Except.ok.inj expected)
  | binary left op right leftIh rightIh =>
    simp only [typeIn, Option.bind_eq_bind, Option.bind_eq_some_iff] at found
    simp only [dataType, bind_ok, lift_ok] at expected
    obtain ⟨leftType, _, rightType, _, found⟩ := found
    obtain ⟨leftDeclared, _, rightDeclared, _, expected⟩ := expected
    have never : op.isArithmetic ≠ true := Bool.eq_false_iff.mp other
    rcases Operator.resultType_cases found with ⟨_, rfl⟩ | ⟨arithmetic, _⟩
    · rcases Operator.operandType_cases expected with ⟨_, rfl⟩ | ⟨arithmetic, _⟩
      · rfl
      · exact absurd arithmetic never
    · exact absurd arithmetic never
  | isNull expr negated ih =>
    obtain ⟨_, _, rfl⟩ := Option.map_eq_some_iff.mp found
    exact Except.ok.inj expected
  | cast expr target ih =>
    obtain ⟨_, _, castable⟩ := Option.bind_eq_some_iff.mp found
    cases expected
    split at castable
    · exact (Option.some.inj castable).symm
    · cases castable
  | aliased expr name ih =>
    cases expr with
    | aliased inner outer => cases found
    | _ => exact ih other found expected
  | aggregate function expr distinct ih => cases found
  | wildcard => cases found

theorem Expr.computes_declared_type {expr : Expr F} {batch : RecordBatch F} {declared : DataType}
    {array : ArrayRef F} (expected : expr.dataType batch.schema = .ok declared)
    (evaluated : evaluate expr batch = .ok array) :
    array.dataType = declared ↔
      (expr.unalias.isArithmetic = true → expr.narrowType batch.schema = none) := by
  have found := (evaluate_eq_ok.mp evaluated).1
  rw [narrowType_eq found]
  cases arithmetic : expr.unalias.isArithmetic with
  | false => simp [declared_other arithmetic found expected]
  | true =>
    obtain ⟨numeric, wide⟩ := declared_unalias arithmetic found expected
    rw [Option.filter_some]
    cases narrow : array.dataType.isNarrow with
    | false =>
      have kept := (DataType.normalizedNumericType_self numeric).mpr narrow
      exact iff_of_true (Option.some.inj (kept.symm.trans wide)) fun _ => rfl
    | true =>
      refine iff_of_false (fun same => ?_) fun never => nomatch never rfl
      rw [← same, DataType.normalizedNumericType_self numeric, narrow] at wide
      cases wide

def narrowColumn : RecordBatch ℚ :=
  { schema := ⟨[⟨"a", .uint32, true, .empty⟩], .empty⟩
    rows := [[.uint32 7]]
    typed := by decide }

theorem Expr.computes_declared_type_of_mixed :
    let sum : Expr ℚ := .binary (.column "a") .add (.cast (.column "a") .uint64)
    ∃ array, evaluate sum narrowColumn = .ok array ∧ (array.dataType = .uint64 ↔
      (sum.unalias.isArithmetic = true → sum.narrowType narrowColumn.schema = none)) :=
  ⟨_, rfl, Expr.computes_declared_type rfl rfl⟩

theorem Expr.sum_of_narrow_columns :
    let sum : Expr ℚ := .binary (.column "a") .add (.column "a")
    sum.dataType narrowColumn.schema = .ok .uint64 ∧
      (evaluate sum narrowColumn).toOption.map (·.dataType) = some .uint32 :=
  ⟨rfl, rfl⟩

end

end SparkX
