import SparkX.Query.Retyped

set_option autoImplicit false

namespace SparkX

variable {F : Type}

variable {dataType : DataType}

theorem Value.isNamed_of_hasType {value : Value F} (typed : value.hasType dataType = true)
    (named : dataType.isNamed = true) : value.isNamed = true := by
  cases value with
  | other encoded => cases dataType <;> cases typed; cases named
  | _ => rfl

-- A type in the place of another: the same, the 64-bit type of its family, or Null for Boolean.
def DataType.ShiftsTo (before after : DataType) : Prop :=
  before.Widens after ∨ before = .boolean ∧ after = .null

namespace DataType

variable {before after : DataType}

theorem ShiftsTo.refl (dataType : DataType) : dataType.ShiftsTo dataType := .inl (.refl dataType)

theorem ShiftsTo.isNamed (shifts : before.ShiftsTo after) (named : before.isNamed = true) :
    after.isNamed = true := by
  rcases shifts with (rfl | normalized) | ⟨rfl, rfl⟩
  · exact named
  · cases before <;> cases normalized <;> rfl
  · rfl

theorem ShiftsTo.widens (shifts : before.ShiftsTo after) (numeric : before = .null ∨ before.isNumeric = true) :
    before.Widens after := by
  rcases shifts with widens | ⟨rfl, _⟩
  · exact widens
  · rcases numeric with ⟨⟨⟩⟩ | ⟨⟨⟩⟩

theorem ShiftsTo.booleanOrNull (shifts : before.ShiftsTo after) (known : before.isBooleanOrNull = true) :
    after.isBooleanOrNull = true ∧ DataType.boolean.ShiftsTo after := by
  rcases shifts with (rfl | normalized) | ⟨rfl, rfl⟩
  · rcases isBooleanOrNull_iff.mp known with rfl | rfl
    · exact ⟨rfl, .refl _⟩
    · exact ⟨rfl, .inr ⟨rfl, rfl⟩⟩
  · cases before <;> cases normalized <;> cases known
  · exact ⟨rfl, .inr ⟨rfl, rfl⟩⟩

theorem ShiftsTo.unnamed (shifts : before.ShiftsTo after) {name : String} :
    before = .other name ↔ after = .other name := by
  rcases shifts with widens | ⟨rfl, rfl⟩
  · exact widens.unnamed
  · simp

theorem ShiftsTo.fixed (shifts : before.ShiftsTo after)
    (outside : before = .null ∨ ∃ name, before = .other name) : after = before := by
  rcases outside with rfl | ⟨name, rfl⟩
  · exact (shifts.widens (.inl rfl)).null
  · exact shifts.unnamed.mp rfl

end DataType

namespace Operator

variable {op : Operator}

theorem kleene_neutral (logical : op.isLogical = true) (other : Option Bool) :
    op.kleene (some (op == .and)) other = other ∧ op.kleene other (some (op == .and)) = other := by
  cases op <;> cases logical <;> rcases other with _ | _ | _ <;> exact ⟨rfl, rfl⟩

theorem kleene_decisive (logical : op.isLogical = true) (other : Option Bool) :
    op.kleene (some (op == .or)) other = some (op == .or) ∧
      op.kleene other (some (op == .or)) = some (op == .or) := by
  cases op <;> cases logical <;> rcases other with _ | _ | _ <;> exact ⟨rfl, rfl⟩

end Operator

theorem Value.ofBool_toBool {value : Value F} (known : dataType.isBooleanOrNull = true)
    (typed : value.hasType dataType = true) : Value.ofBool value.toBool = value := by
  rcases DataType.isBooleanOrNull_iff.mp known with rfl | rfl <;> cases value <;> first | rfl | cases typed

namespace Operator

variable {op : Operator} {left right leftInferred rightInferred declared : DataType}

theorem not_arithmetic_of_logical (logical : op.isLogical = true) : op.isArithmetic = false := by
  cases op <;> first | rfl | cases logical

theorem operandType_comparison (arithmetic : op.isArithmetic = false) (logical : op.isLogical = false) :
    (∃ declared, op.operandType left right = .ok declared) ↔ left = right ∨ left = .null ∨ right = .null ∨
      (left.commonNumericType right).isSome = true := by
  unfold operandType
  rw [logical, if_neg Bool.false_ne_true, arithmetic, if_neg Bool.false_ne_true]
  split <;> simp_all

theorem exists_operandType_of_narrows (leftNarrows : left.NarrowsTo leftInferred)
    (rightNarrows : right.NarrowsTo rightInferred) (expected : op.operandType left right = .ok declared) :
    ∃ inferred, op.operandType leftInferred rightInferred = .ok inferred := by
  have boolean {declared inferred : DataType} (narrows : declared.NarrowsTo inferred)
      (known : declared.isBooleanOrNull = true) : inferred.isBooleanOrNull = true := by
    rcases narrows.booleanOrNull known with widens | ⟨_, rfl⟩
    · exact widens.boolean
    · rfl
  cases logical : op.isLogical with
  | true =>
    obtain ⟨leftKnown, rightKnown, _⟩ := Expr.operandType_logical logical expected
    refine ⟨.boolean, ?_⟩
    rw [operandType, if_pos logical, boolean leftNarrows leftKnown, boolean rightNarrows rightKnown]
    rfl
  | false =>
    cases arithmetic : op.isArithmetic with
    | true =>
      rcases operandType_cases expected with ⟨other, _⟩ | ⟨_, common⟩
      · cases other.symm.trans arithmetic
      obtain ⟨first, second, _⟩ := DataType.commonNumericType_operands common
      refine ⟨declared, ?_⟩
      rw [operandType, logical, if_neg Bool.false_ne_true, if_pos arithmetic, okOr_ok,
        DataType.commonNumericType_left (leftNarrows.widens first),
        DataType.commonNumericType_right (rightNarrows.widens second), common]
    | false =>
      have meets := (operandType_comparison arithmetic logical).mp ⟨declared, expected⟩
      refine (operandType_comparison arithmetic logical).mpr ?_
      rcases leftNarrows with leftWidens | ⟨_, untyped⟩
      · rcases rightNarrows with rightWidens | ⟨_, untyped⟩
        · exact (meets_of_widens leftWidens rightWidens).mpr meets
        · exact .inr (.inr (.inl untyped))
      · exact .inr (.inl untyped)

end Operator

variable [ArrowKernels F]

-- Arrow casts the numbers of one family to the same types.
structure ArrowKernels.CastsAlike (F : Type) [ArrowKernels F] : Prop where
  widen : ∀ source wide target, source.normalizedNumericType = some wide →
    ArrowKernels.canCast F source target = true → ArrowKernels.canCast F wide target = true
  null : ArrowKernels.CastsNull F

namespace Expr

-- `simplify` finds a type for every operation that it visits, and can read every constant that it
-- computes as a value of the engine.
def Simplifies (schema : Schema) : Expr F → Prop
  | .binary left op right =>
    left.Simplifies schema ∧ right.Simplifies schema ∧
      left.KeepsType schema false ∧ right.KeepsType schema false ∧
      ∃ declared, (Expr.binary left op right).dataType schema = .ok declared
  | .cast expr target =>
    expr.Simplifies schema ∧ ∀ value, (Expr.cast expr target).constant = some value → value.isNamed = true
  | .isNull expr _ | .aliased expr _ => expr.Simplifies schema
  | _ => True

-- Simplification leaves no alias right under another. An operand that it throws away may have one.
def Flat : Expr F → Prop
  | .aliased expr _ => ¬expr.Surfaces ∧ expr.Flat
  | .isNull expr _ | .cast expr _ => expr.constant = none → expr.Flat
  | .binary left op right =>
    (LeavesRight left op right → right.Flat) ∧ (LeavesLeft left op right → left.Flat) ∧
      (op.folded left.constant right.constant = none → ¬LeavesRight left op right →
        ¬LeavesLeft left op right → left.Flat ∧ right.Flat)
  | _ => True

end Expr

namespace Operator

variable {op : Operator} {leftType rightType leftAfter rightAfter computed wide : DataType}

theorem resultType_boolean (other : op.isArithmetic = false)
    (found : op.resultType F leftType rightType = some computed) : computed = .boolean := by
  rcases resultType_cases found with ⟨_, boolean⟩ | ⟨arithmetic, _⟩
  · exact boolean
  · cases other.symm.trans arithmetic

theorem resultType_common (arithmetic : op.isArithmetic = true)
    (common : leftType.commonNumericType rightType = some wide)
    (found : op.resultType F leftType rightType = some computed) :
    leftType = rightType ∧ leftType.isNumeric = true ∧ computed = leftType ∨
      leftType ≠ rightType ∧ computed = wide := by
  rcases resultType_cases found with ⟨other, _⟩ | ⟨_, ⟨rfl, output⟩ | ⟨different, target⟩⟩
  · cases other.symm.trans arithmetic
  · rcases arithmeticType_eq_some.mp output with ⟨numeric, same⟩ | ⟨_, _, rfl, _⟩
    · exact .inl ⟨rfl, numeric, same⟩
    · cases common
  · exact .inr ⟨different, Option.some.inj (target.symm.trans common)⟩

theorem arithmetic_widens (arithmetic : op.isArithmetic = true) {after : DataType}
    (leftWidens : leftType.Widens leftAfter) (rightWidens : rightType.Widens rightAfter)
    (common : leftType.commonNumericType rightType = some wide)
    (found : op.resultType F leftType rightType = some computed)
    (foundAfter : op.resultType F leftAfter rightAfter = some after) : computed.Widens after := by
  have commonAfter : leftAfter.commonNumericType rightAfter = some wide := by
    rw [← DataType.commonNumericType_left leftWidens, ← DataType.commonNumericType_right rightWidens, common]
  rcases resultType_common arithmetic common found with ⟨rfl, numeric, rfl⟩ | ⟨different, rfl⟩
  · rcases resultType_common arithmetic commonAfter foundAfter with ⟨_, _, rfl⟩ | ⟨_, rfl⟩
    · exact leftWidens
    · exact .inr (DataType.commonNumericType_self numeric ▸ common)
  · rcases resultType_common arithmetic commonAfter foundAfter with ⟨rfl, numeric, rfl⟩ | ⟨_, rfl⟩
    · -- Types that differed and are now equal were not both left as they were.
      rw [DataType.commonNumericType_self numeric] at commonAfter
      refine .inl ?_
      rcases leftWidens with rfl | leftNormal
      · rcases rightWidens with rfl | rightNormal
        · exact absurd rfl different
        · cases rightType <;> cases rightNormal <;> exact Option.some.inj commonAfter
      · cases leftType <;> cases leftNormal <;> exact Option.some.inj commonAfter
    · exact .refl _

theorem comparison_shifts (leftShifts : leftType.ShiftsTo leftAfter) (rightShifts : rightType.ShiftsTo rightAfter)
    (meets : leftType = rightType ∨ leftType = .null ∨ rightType = .null ∨
      (leftType.commonNumericType rightType).isSome = true) :
    leftAfter = rightAfter ∨ leftAfter = .null ∨ rightAfter = .null ∨
      (leftAfter.commonNumericType rightAfter).isSome = true := by
  rcases leftShifts with leftWidens | ⟨_, untyped⟩
  · rcases rightShifts with rightWidens | ⟨_, untyped⟩
    · exact (meets_of_widens leftWidens rightWidens).mp meets
    · exact .inr (.inr (.inl untyped))
  · exact .inr (.inl untyped)

theorem comparesUnnamed_of_shifts (leftShifts : leftType.ShiftsTo leftAfter)
    (rightShifts : rightType.ShiftsTo rightAfter) (compares : ComparesUnnamed F leftType rightType) :
    ComparesUnnamed F leftAfter rightAfter := by
  intro name unnamed
  rw [← leftShifts.unnamed, ← rightShifts.unnamed] at unnamed
  obtain ⟨comparable, castable⟩ := compares name unnamed
  refine ⟨comparable, fun different => castable fun same => different ?_⟩
  rcases unnamed with rfl | rfl
  · rw [leftShifts.unnamed.mp rfl, rightShifts.unnamed.mp same.symm]
  · rw [leftShifts.unnamed.mp same, rightShifts.unnamed.mp rfl]

theorem resultType_shifts (supports : ArrowKernels.Supports F) (leftShifts : leftType.ShiftsTo leftAfter)
    (rightShifts : rightType.ShiftsTo rightAfter)
    (numeric : op.isArithmetic = true → ∃ wide, leftType.commonNumericType rightType = some wide)
    (found : op.resultType F leftType rightType = some computed) :
    ∃ after, op.resultType F leftAfter rightAfter = some after ∧ computed.ShiftsTo after := by
  cases arithmetic : op.isArithmetic with
  | true =>
    obtain ⟨wide, common⟩ := numeric arithmetic
    obtain ⟨leftNumeric, rightNumeric, _⟩ := DataType.commonNumericType_operands common
    have leftWidens := leftShifts.widens leftNumeric
    have rightWidens := rightShifts.widens rightNumeric
    have commonAfter : leftAfter.commonNumericType rightAfter = some wide := by
      rw [← DataType.commonNumericType_left leftWidens, ← DataType.commonNumericType_right rightWidens, common]
    obtain ⟨after, foundAfter⟩ := arithmetic_isSome supports arithmetic commonAfter
    exact ⟨after, foundAfter, .inl (arithmetic_widens arithmetic leftWidens rightWidens common found foundAfter)⟩
  | false =>
    obtain rfl := resultType_boolean arithmetic found
    suffices computes : ∃ after, op.resultType F leftAfter rightAfter = some after by
      obtain ⟨after, foundAfter⟩ := computes
      exact ⟨after, foundAfter, resultType_boolean arithmetic foundAfter ▸ .refl _⟩
    cases logical : op.isLogical with
    | true =>
      obtain ⟨leftKnown, rightKnown⟩ := resultType_logical logical found
      exact (logical_isSome supports logical).mpr
        ⟨(leftShifts.booleanOrNull leftKnown).1, (rightShifts.booleanOrNull rightKnown).1⟩
    | false =>
      have comparison : op.isComparison = true := by simp [isComparison, arithmetic, logical]
      obtain ⟨meets, compares⟩ := (comparison_isSome supports comparison).mp ⟨_, found⟩
      exact (comparison_isSome supports comparison).mpr ⟨comparison_shifts leftShifts rightShifts meets,
        comparesUnnamed_of_shifts leftShifts rightShifts compares⟩

-- An operand without a name for its type meets only its own type and Null, which stay as they are.
theorem unnamed_fixed (leftShifts : leftType.ShiftsTo leftAfter) (rightShifts : rightType.ShiftsTo rightAfter)
    (found : op.resultType F leftType rightType = some computed) {name : String}
    (unnamed : leftType = .other name ∨ rightType = .other name) :
    leftAfter = leftType ∧ rightAfter = rightType := by
  have meets := resultType_meets found
  have targets {dataType : DataType} (target : (∃ target, op.targetType (.other name) dataType = some target) ∨
      ∃ target, op.targetType dataType (.other name) = some target) : dataType = .null := by
    unfold targetType at target
    cases op.isArithmetic <;> cases dataType <;> simp_all [DataType.commonNumericType, DataType.isNumeric]
  rcases unnamed with rfl | rfl
  · refine ⟨leftShifts.fixed (.inr ⟨name, rfl⟩), rightShifts.fixed ?_⟩
    rcases meets with same | target
    · exact .inr ⟨name, same.symm⟩
    · exact .inl (targets (.inl target))
  · refine ⟨leftShifts.fixed ?_, rightShifts.fixed (.inr ⟨name, rfl⟩)⟩
    rcases meets with same | target
    · exact .inr ⟨name, same⟩
    · exact .inl (targets (.inr target))

theorem result_shifts (keeps : ArrowKernels.KeepsValues F) {after : DataType} {left right : Value F}
    (leftShifts : leftType.ShiftsTo leftAfter) (rightShifts : rightType.ShiftsTo rightAfter)
    (found : op.resultType F leftType rightType = some computed)
    (foundAfter : op.resultType F leftAfter rightAfter = some after)
    (leftBefore : left.hasType leftType = true) (rightBefore : right.hasType rightType = true)
    (leftNow : left.hasType leftAfter = true) (rightNow : right.hasType rightAfter = true) :
    op.result leftAfter rightAfter left right = op.result leftType rightType left right := by
  by_cases unnamed : ∃ name, leftType = .other name ∨ rightType = .other name
  · obtain ⟨name, unnamed⟩ := unnamed
    obtain ⟨rfl, rfl⟩ := unnamed_fixed leftShifts rightShifts found unnamed
    rfl
  -- Only a NULL can have both types where they differ, and its type does not matter.
  have named := not_exists.mp unnamed
  have leftIs := Value.isNamed_of_hasType leftBefore
    (DataType.isNamed_iff.mpr fun name same => named name (.inl same))
  have rightIs := Value.isNamed_of_hasType rightBefore
    (DataType.isNamed_iff.mpr fun name same => named name (.inr same))
  exact (result_ownType keeps leftNow rightNow leftIs rightIs foundAfter).symm.trans
    (result_ownType keeps leftBefore rightBefore leftIs rightIs found)

theorem exists_operandType (supports : ArrowKernels.Supports F) (leftWidens : leftType.Widens leftAfter)
    (rightWidens : rightType.Widens rightAfter) (found : op.resultType F leftType rightType = some computed)
    (numeric : op.isArithmetic = true → ∀ name, leftType ≠ .other name) :
    ∃ declared, op.operandType leftAfter rightAfter = .ok declared := by
  cases logical : op.isLogical with
  | true =>
    obtain ⟨leftKnown, rightKnown⟩ := resultType_logical logical found
    refine ⟨.boolean, ?_⟩
    rw [operandType, if_pos logical, ← leftWidens.boolean, ← rightWidens.boolean, leftKnown, rightKnown]
    rfl
  | false =>
    cases arithmetic : op.isArithmetic with
    | true =>
      have common : ∃ wide, leftType.commonNumericType rightType = some wide := by
        rcases resultType_cases found with ⟨other, _⟩ | ⟨_, ⟨rfl, output⟩ | ⟨_, target⟩⟩
        · cases other.symm.trans arithmetic
        · rcases arithmeticType_eq_some.mp output with ⟨known, _⟩ | ⟨name, _, unnamed, _⟩
          · rw [DataType.commonNumericType_self known]
            cases leftType <;> first | exact ⟨_, rfl⟩ | cases known
          · exact absurd unnamed (numeric arithmetic name)
        · exact ⟨computed, target⟩
      obtain ⟨wide, common⟩ := common
      refine ⟨wide, ?_⟩
      rw [operandType, logical, if_neg Bool.false_ne_true, if_pos arithmetic, okOr_ok,
        ← DataType.commonNumericType_left leftWidens, ← DataType.commonNumericType_right rightWidens, common]
    | false =>
      have comparison : op.isComparison = true := by simp [isComparison, arithmetic, logical]
      rw [operandType_comparison arithmetic logical, ← meets_of_widens leftWidens rightWidens]
      exact ((comparison_isSome supports comparison).mp ⟨_, found⟩).1

end Operator

namespace Expr

variable {expr result : Expr F} {schema : Schema}

variable {dataType : DataType} {value : Value F}

variable {row : List (Value F)}

theorem valueIn_cast {source target : DataType} (typed : expr.typeIn schema = some source) :
    (Expr.cast expr target).valueIn schema row = some value ↔
      ∃ old, expr.valueIn schema row = some old ∧ ArrowKernels.castValue source target old = value := by
  simp [valueIn, typed, Option.bind_eq_some_iff]

theorem flat_of_constant (known : expr.constant ≠ none) : expr.Flat := by
  induction expr with
  | column | literal | aggregate | wildcard => trivial
  | isNull inner negated ih | cast inner target ih => exact fun missing => absurd (Option.map_eq_none_iff.mpr missing) known
  | binary left op right =>
    have settled : op.folded left.constant right.constant ≠ none := known
    exact ⟨fun leaves => absurd (Operator.folded_neutral leaves.1 (.inl leaves.2)) settled,
      fun leaves => absurd (Operator.folded_neutral leaves.1 (.inr leaves.2)) settled,
      fun missing => absurd missing settled⟩
  | aliased inner name ih =>
    cases inner with
    | aliased deeper other => exact absurd rfl known
    | binary left op right =>
      refine ⟨?_, ih known⟩
      rintro (⟨leaves, _⟩ | ⟨leaves, _⟩)
      · exact known (Operator.folded_neutral leaves.1 (.inl leaves.2))
      · exact known (Operator.folded_neutral leaves.1 (.inr leaves.2))
    | _ => exact ⟨id, ih known⟩

theorem exists_dataType (simplifies : expr.Simplifies schema) (typed : expr.typeIn schema = some dataType) :
    ∃ declared, expr.dataType schema = .ok declared := by
  induction expr with
  | column name =>
    obtain ⟨index, resolved, known⟩ := Option.bind_eq_some_iff.mp typed
    rw [Schema.types, List.getElem?_map] at known
    obtain ⟨field, present, _⟩ := Option.map_eq_some_iff.mp known
    have looked : schema.findField name = .ok field :=
      bind_ok.mpr ⟨index, lift_ok.mpr (Operator.toOption_eq_some.mp resolved), expect_ok.mpr present⟩
    exact ⟨field.dataType, map_eq_ok.mpr ⟨field, looked, rfl⟩⟩
  | binary left op right => exact simplifies.2.2.2.2
  | literal | isNull | cast => exact ⟨_, rfl⟩
  | aliased inner name ih =>
    cases inner with
    | aliased deeper other => cases typed
    | _ => exact ih simplifies typed
  | aggregate | wildcard => cases typed

theorem simplify_varies (restores : ArrowKernels.Restores F) (typed : expr.typeIn schema = some dataType)
    (done : expr.simplify schema = .ok result) (unknown : expr.constant = none) : ¬result.folds := by
  induction expr generalizing result dataType with
  | column name =>
    obtain ⟨_, _, ⟨folds, _⟩ | ⟨open_, rfl⟩⟩ := simplifyNode_ok.mp done
    · exact absurd folds.1 (Finset.singleton_ne_empty _)
    · exact open_
  | literal value => cases unknown
  | isNull inner negated ih =>
    obtain ⟨simplified, inside, done⟩ := bind_ok.mp done
    obtain ⟨innerType, innerTyped, _⟩ := Option.map_eq_some_iff.mp typed
    have open_ := ih innerTyped inside (Option.map_eq_none_iff.mp unknown)
    obtain ⟨_, _, ⟨folds, _⟩ | ⟨_, rfl⟩⟩ := simplifyNode_ok.mp done
    · exact absurd folds open_
    · exact open_
  | cast inner target ih =>
    obtain ⟨simplified, inside, done⟩ := bind_ok.mp done
    obtain ⟨source, innerTyped, _⟩ := typeIn_cast.mp typed
    have open_ := ih innerTyped inside (Option.map_eq_none_iff.mp unknown)
    obtain ⟨_, _, ⟨folds, _⟩ | ⟨_, rfl⟩⟩ := simplifyNode_ok.mp done
    · exact absurd folds open_
    · exact open_
  | binary left op right leftIh rightIh =>
    obtain ⟨leftType, rightType, leftTyped, rightTyped, _⟩ := typeIn_binary.mp typed
    obtain ⟨simpleLeft, simpleRight, outputType, leftDone, rightDone, _, known | ⟨open_, rewrites⟩⟩ :=
      simplify_binary restores done
    · obtain ⟨_, _, _, _, _, _, _, _, known, _⟩ := known
      cases unknown.symm.trans known
    have folded : op.folded left.constant right.constant = none := unknown
    cases rewrites with
    | null other found => cases folded.symm.trans (Operator.folded_null open_ other found)
    | decided logical _ _ found => cases folded.symm.trans (Operator.folded_decided open_ logical found)
    | right logical found => exact rightIh rightTyped rightDone (open_.resolve_left (by simp [found]))
    | left logical _ found => exact leftIh leftTyped leftDone (open_.resolve_right (by simp [found]))
    | kept =>
      intro folds
      obtain ⟨leftFolds, rightFolds⟩ := binary_folds.mp folds
      rcases open_ with missing | missing
      · exact leftIh leftTyped leftDone missing leftFolds
      · exact rightIh rightTyped rightDone missing rightFolds
  | aliased inner name ih =>
    obtain ⟨simplified, inside, done⟩ := bind_ok.mp done
    cases done
    have open_ : ¬simplified.folds := by
      cases inner with
      | aliased deeper other => cases typed
      | _ => exact ih typed inside unknown
    exact open_
  | aggregate | wildcard => cases typed

theorem simplifyNode_constant (restores : ArrowKernels.Restores F) (supports : ArrowKernels.Supports F)
    (expr : Expr F) {schema : Schema} {outputType : DataType} (folds : expr.folds)
    (inferred : expr.dataType schema = .ok outputType) (typed : expr.typeIn schema = some dataType)
    (found : expr.valueIn schema row = some value) (known : value.hasType dataType = true)
    (named : value.isNamed = true) (stored : value.Stored)
    (castable : dataType.isNamed = false → ArrowKernels.canCast F .null dataType = true) :
    ∃ result, expr.simplifyNode schema = .ok result ∧ result.typeIn schema = some dataType ∧
      ∀ row, result.valueIn schema row = expr.valueIn schema row := by
  have constant := typedLiteral_isConstant known named stored
  refine ⟨typedLiteral value.scalar dataType, simplifyNode_ok.mpr ⟨outputType, inferred, .inl ⟨folds,
    dataType, value, ?_, ?_, named, rfl⟩⟩, typeIn_typedLiteral supports known named castable, fun other => ?_⟩
  · exact (meaning_of_no_columns folds.1 _ schema).1.trans typed
  · exact ((meaning_of_no_columns folds.1 _ schema).2 _ row).trans found
  · rw [constant.valueIn_eq restores, (meaning_of_no_columns folds.1 schema schema).2 other row, found]

structure Preserves (schema : Schema) (rows : List (List (Value F))) (expr : Expr F) (computed : DataType)
    (result : Expr F) : Prop where
  typed : ∃ after, result.typeIn schema = some after ∧ computed.ShiftsTo after
  values : ∀ row ∈ rows, result.valueIn schema row = expr.valueIn schema row

section

variable {rows : List (List (Value F))} (restores : ArrowKernels.Restores F) (supports : ArrowKernels.Supports F)
  (admitted : ∀ row ∈ rows, schema.admits row)

include restores admitted

variable {left right simpleLeft simpleRight : Expr F} {op : Operator}
  {leftType rightType computed outputType : DataType}

include supports in
theorem binary_preserves (leftKept : left.Preserves schema rows leftType simpleLeft)
    (rightKept : right.Preserves schema rows rightType simpleRight)
    (leftTyped : left.typeIn schema = some leftType) (rightTyped : right.typeIn schema = some rightType)
    (numeric : op.isArithmetic = true → ∃ wide, leftType.commonNumericType rightType = some wide)
    (known : op.resultType F leftType rightType = some computed)
    (operands : ∀ row ∈ rows, ∃ leftValue rightValue, left.valueIn schema row = some leftValue ∧
      right.valueIn schema row = some rightValue) :
    (Expr.binary left op right).Preserves schema rows computed (.binary simpleLeft op simpleRight) := by
  obtain ⟨leftAfter, leftFound, leftShifts⟩ := leftKept.typed
  obtain ⟨rightAfter, rightFound, rightShifts⟩ := rightKept.typed
  obtain ⟨after, knownAfter, shifts⟩ := Operator.resultType_shifts supports leftShifts rightShifts numeric known
  refine ⟨⟨after, typeIn_binary.mpr ⟨_, _, leftFound, rightFound, knownAfter⟩, shifts⟩, fun row member => ?_⟩
  obtain ⟨leftValue, rightValue, leftRead, rightRead⟩ := operands row member
  have leftReadAfter := (leftKept.values row member).trans leftRead
  have rightReadAfter := (rightKept.values row member).trans rightRead
  simp only [valueIn, leftFound, rightFound, leftTyped, rightTyped, leftReadAfter, rightReadAfter, leftRead,
    rightRead]
  exact Operator.result_shifts restores.toKeepsValues leftShifts rightShifts known knownAfter
    (hasType_valueIn (admitted row member) leftTyped leftRead)
    (hasType_valueIn (admitted row member) rightTyped rightRead)
    (hasType_valueIn (admitted row member) leftFound leftReadAfter)
    (hasType_valueIn (admitted row member) rightFound rightReadAfter)

omit admitted in
theorem Preserves.constant (kept : left.Preserves schema rows leftType simpleLeft)
    (done : left.simplify schema = .ok simpleLeft) {value : Value F} (known : left.constant = some value) :
    ∀ row ∈ rows, left.valueIn schema row = some value := by
  intro row member
  obtain ⟨dataType, constant⟩ := known ▸ (simplify_reflects restores done).1
  rw [← kept.values row member, constant.valueIn_eq restores]

include supports in
theorem rewrites_preserves (leftKept : left.Flat → left.Preserves schema rows leftType simpleLeft)
    (rightKept : right.Flat → right.Preserves schema rows rightType simpleRight)
    (leftDone : left.simplify schema = .ok simpleLeft) (rightDone : right.simplify schema = .ok simpleRight)
    (leftTyped : left.typeIn schema = some leftType) (rightTyped : right.typeIn schema = some rightType)
    (numeric : op.isArithmetic = true → ∃ wide, leftType.commonNumericType rightType = some wide)
    (known : op.resultType F leftType rightType = some computed)
    (operands : ∀ row ∈ rows, ∃ leftValue rightValue, left.valueIn schema row = some leftValue ∧
      right.valueIn schema row = some rightValue)
    (widens : computed.Widens outputType) (named : outputType.isNamed = true)
    (open_ : left.constant = none ∨ right.constant = none)
    (rewrites : Rewrites op left.constant right.constant simpleLeft simpleRight outputType result)
    (flat : (Expr.binary left op right).Flat) :
    (Expr.binary left op right).Preserves schema rows computed result := by
  have leftConstant {value : Value F} (found : left.constant = some value) :=
    (leftKept (flat_of_constant (by simp [found]))).constant restores leftDone found
  have rightConstant {value : Value F} (found : right.constant = some value) :=
    (rightKept (flat_of_constant (by simp [found]))).constant restores rightDone found
  -- The value of the whole from the values of the operands.
  have computes {row : List (Value F)} {value : Value F} (member : row ∈ rows)
      (result : ∀ leftValue rightValue, left.valueIn schema row = some leftValue →
        right.valueIn schema row = some rightValue → op.result leftType rightType leftValue rightValue = some value) :
      (Expr.binary left op right).valueIn schema row = some value := by
    obtain ⟨leftValue, rightValue, leftFound, rightFound⟩ := operands row member
    exact (valueIn_binary leftTyped rightTyped).mpr
      ⟨leftValue, rightValue, leftFound, rightFound, result _ _ leftFound rightFound⟩
  have kleene (logical : op.isLogical = true) {row : List (Value F)} (member : row ∈ rows)
      {leftValue rightValue : Value F} (leftFound : left.valueIn schema row = some leftValue)
      (rightFound : right.valueIn schema row = some rightValue) :
      Value.ofBool leftValue.toBool = leftValue ∧ Value.ofBool rightValue.toBool = rightValue ∧
        (Expr.binary left op right).valueIn schema row =
          some (.ofBool (op.kleene leftValue.toBool rightValue.toBool)) := by
    obtain ⟨leftKnown, rightKnown⟩ := Operator.resultType_logical logical known
    have leftIs := hasType_valueIn (admitted row member) leftTyped leftFound
    have rightIs := hasType_valueIn (admitted row member) rightTyped rightFound
    refine ⟨Value.ofBool_toBool leftKnown leftIs, Value.ofBool_toBool rightKnown rightIs,
      (valueIn_binary leftTyped rightTyped).mpr ⟨_, _, leftFound, rightFound, ?_⟩⟩
    exact Operator.result_logical restores.toKeepsValues logical leftKnown rightKnown leftIs rightIs
  have boolean (logical : op.isLogical = true) : computed = .boolean :=
    Operator.resultType_boolean (Operator.not_arithmetic_of_logical logical) known
  cases rewrites with
  | null other found =>
    have untyped := Value.hasType_null (F := F) outputType
    refine ⟨⟨outputType, typeIn_typedLiteral supports untyped rfl (by simp [named]), .inl widens⟩, ?_⟩
    intro row member
    refine ((typedLiteral_isConstant untyped rfl trivial).valueIn_eq restores row).trans (Eq.symm ?_)
    refine computes member fun leftValue rightValue leftFound rightFound => ?_
    refine Operator.result_null restores.toKeepsValues other (Operator.resultType_meets known) ?_
    rcases found with found | found
    · exact .inl (Option.some.inj (leftFound.symm.trans (leftConstant found row member)))
    · exact .inr (Option.some.inj (rightFound.symm.trans (rightConstant found row member)))
  | right logical found =>
    have leaves : LeavesRight left op right := ⟨logical, found, open_.resolve_left (by simp [found])⟩
    have kept := rightKept (flat.1 leaves)
    obtain ⟨after, typed, shifts⟩ := kept.typed
    obtain ⟨_, rightKnown⟩ := Operator.resultType_logical logical known
    refine ⟨⟨after, typed, boolean logical ▸ (shifts.booleanOrNull rightKnown).2⟩, fun row member => ?_⟩
    obtain ⟨_, rightValue, _, rightFound⟩ := operands row member
    obtain ⟨_, rightIs, same⟩ := kleene logical member (leftConstant found row member) rightFound
    rw [same, kept.values row member, rightFound]
    change some rightValue = some (.ofBool (op.kleene (some (op == .and)) rightValue.toBool))
    rw [(Operator.kleene_neutral logical _).1, rightIs]
  | left logical _ found =>
    have leaves : LeavesLeft left op right := ⟨logical, open_.resolve_right (by simp [found]), found⟩
    have kept := leftKept (flat.2.1 leaves)
    obtain ⟨after, typed, shifts⟩ := kept.typed
    obtain ⟨leftKnown, _⟩ := Operator.resultType_logical logical known
    refine ⟨⟨after, typed, boolean logical ▸ (shifts.booleanOrNull leftKnown).2⟩, fun row member => ?_⟩
    obtain ⟨leftValue, _, leftFound, _⟩ := operands row member
    obtain ⟨leftIs, _, same⟩ := kleene logical member leftFound (rightConstant found row member)
    rw [same, kept.values row member, leftFound]
    change some leftValue = some (.ofBool (op.kleene leftValue.toBool (some (op == .and))))
    rw [(Operator.kleene_neutral logical _).2, leftIs]
  | decided logical _ _ found =>
    refine ⟨⟨.boolean, rfl, boolean logical ▸ .refl _⟩, fun row member => ?_⟩
    obtain ⟨leftValue, rightValue, leftFound, rightFound⟩ := operands row member
    rw [(kleene logical member leftFound rightFound).2.2]
    rcases found with found | found
    · rw [Option.some.inj (leftFound.symm.trans (leftConstant found row member))]
      change _ = some (Value.ofBool (op.kleene (some (op == .or)) _))
      rw [(Operator.kleene_decisive logical _).1]
      rfl
    · rw [Option.some.inj (rightFound.symm.trans (rightConstant found row member))]
      change _ = some (Value.ofBool (op.kleene _ (some (op == .or))))
      rw [(Operator.kleene_decisive logical _).2]
      rfl
  | kept typed undecided =>
    have folded := Operator.folded_none open_ typed fun logical => undecided logical _
    obtain ⟨leftFlat, rightFlat⟩ := flat.2.2 folded (fun leaves => (undecided leaves.1 _).1 leaves.2.1)
      fun leaves => (undecided leaves.1 _).2 leaves.2.2
    exact binary_preserves restores supports admitted (leftKept leftFlat) (rightKept rightFlat) leftTyped
      rightTyped numeric known operands

omit admitted in
include supports in
theorem Preserves.simplifyNode (kept : expr.Preserves schema rows computed result) (folds : result.folds)
    (inferred : result.dataType schema = .ok outputType) {after : DataType}
    (typed : result.typeIn schema = some after) (present : row ∈ rows)
    (found : expr.valueIn schema row = some value) (known : value.hasType after = true)
    (named : value.isNamed = true) (stored : value.Stored)
    (castable : after.isNamed = false → ArrowKernels.canCast F .null after = true) :
    ∃ node, result.simplifyNode schema = .ok node ∧ expr.Preserves schema rows computed node := by
  obtain ⟨node, finished, nodeTyped, same⟩ := simplifyNode_constant restores supports result folds inferred typed
    ((kept.values row present).trans found) known named stored castable
  obtain ⟨_, again, shifts⟩ := kept.typed
  obtain rfl := Option.some.inj (again.symm.trans typed)
  exact ⟨node, finished, ⟨_, nodeTyped, shifts⟩, fun row member => (same row).trans (kept.values row member)⟩

def Keeps (schema : Schema) (rows : List (List (Value F))) (expr : Expr F) (computed : DataType) : Prop :=
  ∃ result, expr.simplify schema = .ok result ∧ (expr.Flat → expr.Preserves schema rows computed result)

variable {inner : Expr F} {innerType target : DataType}

include supports

omit admitted in
theorem isNull_keeps {negated : Bool} (kept : inner.Keeps schema rows innerType)
    (typed : inner.typeIn schema = some innerType) (present : row ∈ rows)
    (found : (Expr.isNull inner negated).valueIn schema row = some value) :
    (Expr.isNull inner negated).Keeps schema rows .boolean := by
  obtain ⟨simplified, done, preserves⟩ := kept
  have kept (flat : inner.Flat) :
      (Expr.isNull inner negated).Preserves schema rows .boolean (.isNull simplified negated) := by
    obtain ⟨after, afterTyped, _⟩ := (preserves flat).typed
    refine ⟨⟨.boolean, by rw [typeIn, afterTyped]; rfl, .refl _⟩, fun row member => ?_⟩
    rw [valueIn, valueIn, (preserves flat).values row member]
  by_cases unknown : inner.constant = none
  · have open_ := simplify_varies restores typed done unknown
    exact ⟨.isNull simplified negated, bind_ok.mpr ⟨simplified, done, simplifyNode_ok.mpr
      ⟨.boolean, rfl, .inr ⟨open_, rfl⟩⟩⟩, fun flat => kept (flat unknown)⟩
  · have kept := kept (flat_of_constant unknown)
    obtain ⟨after, afterTyped, _⟩ := kept.typed
    obtain ⟨_, _, rfl⟩ := Option.map_eq_some_iff.mp found
    obtain ⟨old, known⟩ := Option.ne_none_iff_exists'.mp unknown
    obtain ⟨_, constant⟩ := known ▸ (simplify_reflects restores done).1
    obtain ⟨_, _, rfl⟩ := Option.map_eq_some_iff.mp afterTyped
    obtain ⟨result, finished, keeps⟩ := kept.simplifyNode restores supports constant.folds rfl afterTyped present
      found rfl rfl trivial fun unnamed => by cases unnamed
    exact ⟨result, bind_ok.mpr ⟨simplified, done, finished⟩, fun _ => keeps⟩

variable (alike : ArrowKernels.CastsAlike F)

include alike

theorem cast_preserves {simplified : Expr F} (kept : inner.Preserves schema rows innerType simplified)
    (typed : inner.typeIn schema = some innerType) (castable : ArrowKernels.canCast F innerType target = true)
    (values : ∀ row ∈ rows, ∃ value, inner.valueIn schema row = some value) :
    (Expr.cast inner target).Preserves schema rows target (.cast simplified target) := by
  obtain ⟨after, afterTyped, shifts⟩ := kept.typed
  have afterCastable : ArrowKernels.canCast F after target = true := by
    rcases shifts with (rfl | normalized) | ⟨rfl, rfl⟩
    · exact castable
    · exact alike.widen innerType after target normalized castable
    · by_cases same : .boolean = target
      · exact supports.cast_null target fun name other => by cases same.trans other
      · exact alike.null .boolean target same castable
  refine ⟨⟨target, typeIn_cast.mpr ⟨after, afterTyped, afterCastable, rfl⟩, .refl _⟩, fun row member => ?_⟩
  obtain ⟨value, read⟩ := values row member
  have readAfter := (kept.values row member).trans read
  rw [(valueIn_cast afterTyped).mpr ⟨value, readAfter, rfl⟩, (valueIn_cast typed).mpr ⟨value, read, rfl⟩]
  have before := hasType_valueIn (admitted row member) typed read
  have now := hasType_valueIn (admitted row member) afterTyped readAfter
  by_cases unnamed : ∃ name, innerType = .other name
  · rw [shifts.fixed (.inr unnamed)]
  have named := Value.isNamed_of_hasType before (DataType.isNamed_iff.mpr (not_exists.mp unnamed))
  by_cases missing : value = .null
  · rw [missing, restores.null, restores.null]
  · rw [← Value.ownType_of_hasType before named missing, ← Value.ownType_of_hasType now named missing]

theorem cast_keeps (kept : inner.Keeps schema rows innerType) (typed : inner.typeIn schema = some innerType)
    (castable : ArrowKernels.canCast F innerType target = true)
    (values : ∀ row ∈ rows, ∃ value, inner.valueIn schema row = some value)
    (readable : ∀ value, (Expr.cast inner target).constant = some value → value.isNamed = true)
    (present : row ∈ rows) : (Expr.cast inner target).Keeps schema rows target := by
  obtain ⟨simplified, done, preserves⟩ := kept
  have kept (flat : inner.Flat) :=
    cast_preserves restores supports admitted alike (preserves flat) typed castable values
  by_cases unknown : inner.constant = none
  · have open_ := simplify_varies restores typed done unknown
    exact ⟨.cast simplified target, bind_ok.mpr ⟨simplified, done, simplifyNode_ok.mpr
      ⟨target, rfl, .inr ⟨open_, rfl⟩⟩⟩, fun flat => kept (flat unknown)⟩
  · have innerKept := preserves (flat_of_constant unknown)
    have kept := kept (flat_of_constant unknown)
    obtain ⟨_, afterTyped, _⟩ := kept.typed
    obtain ⟨_, _, _, reached⟩ := typeIn_cast.mp afterTyped
    rw [reached] at afterTyped
    obtain ⟨old, known⟩ := Option.ne_none_iff_exists'.mp unknown
    obtain ⟨oldType, constant⟩ := known ▸ (simplify_reflects restores done).1
    have read := innerKept.constant restores done known row present
    have found : (Expr.cast inner target).valueIn schema row = some (ArrowKernels.castValue innerType target old) :=
      (valueIn_cast typed).mpr ⟨old, read, rfl⟩
    have same : ArrowKernels.castValue old.ownType target old = ArrowKernels.castValue innerType target old := by
      by_cases missing : old = .null
      · rw [missing, restores.null, restores.null]
      · have before := hasType_valueIn (admitted row present) typed read
        rw [Value.ownType_of_hasType before constant.named missing]
    have named := readable _ (by rw [Expr.constant, known, Option.map_some, same])
    have fromNull (unnamed : target.isNamed = false) : ArrowKernels.canCast F .null target = true := by
      by_cases again : innerType = target
      · obtain ⟨_, innerAfter, innerShifts⟩ := innerKept.typed
        obtain ⟨name, other⟩ : ∃ name, innerType = .other name := by
          cases target <;> first | exact ⟨_, again⟩ | cases unnamed
        rw [innerShifts.fixed (.inr ⟨name, other⟩), again] at innerAfter
        exact constant.castable innerAfter unnamed
      · exact alike.null innerType target again castable
    obtain ⟨result, finished, keeps⟩ := kept.simplifyNode restores supports constant.folds rfl afterTyped present
      found (ArrowKernels.hasType_castValue _ _ _) named (restores.stored _ _ _) fromNull
    exact ⟨result, bind_ok.mpr ⟨simplified, done, finished⟩, fun _ => keeps⟩

omit alike in
theorem binary_keeps (leftKept : left.Keeps schema rows leftType)
    (rightKept : right.Keeps schema rows rightType) (leftTyped : left.typeIn schema = some leftType)
    (rightTyped : right.typeIn schema = some rightType)
    (known : op.resultType F leftType rightType = some computed)
    (operands : ∀ row ∈ rows, ∃ leftValue rightValue, left.valueIn schema row = some leftValue ∧
      right.valueIn schema row = some rightValue) (leftKeeps : left.KeepsType schema false)
    (rightKeeps : right.KeepsType schema false) {declared : DataType}
    (expected : (Expr.binary left op right).dataType schema = .ok declared) (present : row ∈ rows)
    (found : (Expr.binary left op right).valueIn schema row = some value) :
    (Expr.binary left op right).Keeps schema rows computed := by
  obtain ⟨simpleLeft, leftDone, leftKept⟩ := leftKept
  obtain ⟨simpleRight, rightDone, rightKept⟩ := rightKept
  have widens := typeIn_widens schema.declares_self (typeIn_binary.mpr ⟨_, _, leftTyped, rightTyped, known⟩) expected
  obtain ⟨leftDeclared, rightDeclared, leftExpected, rightExpected, operand⟩ := dataType_binary.mp expected
  have leftWidens := typeIn_widens schema.declares_self leftTyped leftExpected
  have rightWidens := typeIn_widens schema.declares_self rightTyped rightExpected
  have numeric (arithmetic : op.isArithmetic = true) :
      ∃ wide, leftType.commonNumericType rightType = some wide := by
    rcases Operator.operandType_cases operand with ⟨other, _⟩ | ⟨_, common⟩
    · cases other.symm.trans arithmetic
    · rw [DataType.commonNumericType_left leftWidens, DataType.commonNumericType_right rightWidens]
      exact ⟨declared, common⟩
  -- The operation on the simplified operands has the same declared type.
  obtain ⟨leftInferred, leftFound, _⟩ := (simplify_keepsType restores leftExpected leftDone false).mp leftKeeps
  obtain ⟨rightInferred, rightFound, _⟩ := (simplify_keepsType restores rightExpected rightDone false).mp rightKeeps
  have leftNarrows := simplify_narrows restores leftExpected leftDone leftFound
  have rightNarrows := simplify_narrows restores rightExpected rightDone rightFound
  obtain ⟨outputType, inferred⟩ := Operator.exists_operandType_of_narrows leftNarrows rightNarrows operand
  obtain rfl := Operator.operandType_narrows leftNarrows rightNarrows operand inferred
  have output := dataType_binary.mpr ⟨_, _, leftFound, rightFound, inferred⟩
  have leftReflects := (simplify_reflects restores leftDone).1
  have rightReflects := (simplify_reflects restores rightDone).1
  by_cases open_ : left.constant = none ∨ right.constant = none
  · have varies : ¬(Expr.binary simpleLeft op simpleRight).folds := by
      intro folds
      obtain ⟨leftFolds, rightFolds⟩ := binary_folds.mp folds
      rcases open_ with missing | missing
      · exact simplify_varies restores leftTyped leftDone missing leftFolds
      · exact simplify_varies restores rightTyped rightDone missing rightFolds
    refine ⟨_, bind_ok.mpr ⟨simpleLeft, leftDone, bind_ok.mpr ⟨simpleRight, rightDone,
      simplifyNode_ok.mpr ⟨outputType, output, .inr ⟨varies, rfl⟩⟩⟩⟩, fun flat => ?_⟩
    exact rewrites_preserves restores supports admitted leftKept rightKept leftDone rightDone leftTyped
      rightTyped numeric known operands widens (Operator.operandType_isNamed inferred) open_
      (simplifyBinary_rewrites leftReflects rightReflects outputType) flat
  · obtain ⟨leftKnown, rightKnown⟩ := not_or.mp open_
    have kept := binary_preserves restores supports admitted (leftKept (flat_of_constant leftKnown))
      (rightKept (flat_of_constant rightKnown)) leftTyped rightTyped numeric known operands
    obtain ⟨leftValue, leftIs⟩ := Option.ne_none_iff_exists'.mp leftKnown
    obtain ⟨rightValue, rightIs⟩ := Option.ne_none_iff_exists'.mp rightKnown
    obtain ⟨_, leftConstant⟩ := leftIs ▸ leftReflects
    obtain ⟨_, rightConstant⟩ := rightIs ▸ rightReflects
    obtain ⟨after, afterTyped, shifts⟩ := kept.typed
    have valueTyped := hasType_valueIn (admitted row present) afterTyped ((kept.values row present).trans found)
    have typeNamed : after.isNamed = true := by
      refine shifts.isNamed ?_
      rcases widens with rfl | normalized
      · exact Operator.operandType_isNamed inferred
      · cases computed <;> first | rfl | cases normalized
    obtain ⟨_, _, _, _, applied⟩ := (valueIn_binary leftTyped rightTyped).mp found
    obtain ⟨result, finished, keeps⟩ := kept.simplifyNode restores supports
      (binary_folds.mpr ⟨leftConstant.folds, rightConstant.folds⟩) output afterTyped present found valueTyped
      (Value.isNamed_of_hasType valueTyped typeNamed) (stored_result restores applied) (by simp [typeNamed])
    exact ⟨result, bind_ok.mpr ⟨simpleLeft, leftDone, bind_ok.mpr ⟨simpleRight, rightDone, finished⟩⟩,
      fun _ => keeps⟩

theorem simplify_preserves (some : rows ≠ []) (simplifies : expr.Simplifies schema)
    (typed : expr.typeIn schema = .some computed)
    (values : ∀ row ∈ rows, ∃ value, expr.valueIn schema row = .some value) :
    expr.Keeps schema rows computed := by
  obtain ⟨first, present⟩ := List.exists_mem_of_ne_nil rows some
  induction expr generalizing computed with
  | column name =>
    obtain ⟨outputType, inferred⟩ := exists_dataType simplifies typed
    refine ⟨.column name, simplifyNode_ok.mpr ⟨outputType, inferred, .inr ⟨?_, rfl⟩⟩, fun _ => ?_⟩
    · exact fun folds => Finset.singleton_ne_empty _ folds.1
    · exact ⟨⟨computed, typed, .refl _⟩, fun _ _ => rfl⟩
  | literal value =>
    cases typed
    have named : value.toValue.isNamed = true := by cases value <;> rfl
    have castable : value.dataType.isNamed = false → ArrowKernels.canCast F .null value.dataType = true := by
      cases value <;> simp [ScalarValue.dataType, DataType.isNamed]
    have found : (Expr.literal value).valueIn schema first = .some value.toValue := rfl
    obtain ⟨result, done, known, same⟩ := simplifyNode_constant restores supports (.literal value) ⟨rfl, rfl⟩ rfl
      rfl found value.hasType_toValue named (by cases value <;> trivial) castable
    exact ⟨result, done, fun _ => ⟨⟨_, known, .refl _⟩, fun row _ => same row⟩⟩
  | isNull inner negated ih =>
    obtain ⟨innerType, innerTyped, rfl⟩ := Option.map_eq_some_iff.mp typed
    have innerValues : ∀ row ∈ rows, ∃ value, inner.valueIn schema row = .some value := by
      intro row member
      obtain ⟨_, found⟩ := values row member
      obtain ⟨value, read, _⟩ := Option.map_eq_some_iff.mp found
      exact ⟨value, read⟩
    obtain ⟨value, found⟩ := values first present
    exact isNull_keeps restores supports (ih simplifies innerTyped innerValues) innerTyped present found
  | cast inner target ih =>
    obtain ⟨source, innerTyped, castable, rfl⟩ := typeIn_cast.mp typed
    have innerValues : ∀ row ∈ rows, ∃ value, inner.valueIn schema row = .some value := by
      intro row member
      obtain ⟨_, found⟩ := values row member
      obtain ⟨value, read, _⟩ := (valueIn_cast innerTyped).mp found
      exact ⟨value, read⟩
    exact cast_keeps restores supports admitted alike (ih simplifies.1 innerTyped innerValues) innerTyped castable
      innerValues simplifies.2 present
  | binary left op right leftIh rightIh =>
    obtain ⟨leftSimplifies, rightSimplifies, leftKeeps, rightKeeps, declared, expected⟩ := simplifies
    obtain ⟨leftType, rightType, leftTyped, rightTyped, known⟩ := typeIn_binary.mp typed
    have operands : ∀ row ∈ rows, ∃ leftValue rightValue, left.valueIn schema row = .some leftValue ∧
        right.valueIn schema row = .some rightValue := by
      intro row member
      obtain ⟨_, found⟩ := values row member
      obtain ⟨leftValue, rightValue, leftFound, rightFound, _⟩ := (valueIn_binary leftTyped rightTyped).mp found
      exact ⟨leftValue, rightValue, leftFound, rightFound⟩
    have leftKept := leftIh leftSimplifies leftTyped fun row member =>
      (operands row member).imp fun _ found => found.choose_spec.1
    have rightKept := rightIh rightSimplifies rightTyped fun row member =>
      (operands row member).elim fun _ found => found.imp fun _ both => both.2
    obtain ⟨value, found⟩ := values first present
    exact binary_keeps restores supports admitted leftKept rightKept leftTyped rightTyped known operands leftKeeps
      rightKeeps expected present found
  | aliased inner name ih =>
    have inside : inner.typeIn schema = .some computed ∧
        ∀ row ∈ rows, (Expr.aliased inner name).valueIn schema row = inner.valueIn schema row := by
      cases inner with
      | aliased deeper other => cases typed
      | _ => exact ⟨typed, fun _ _ => rfl⟩
    obtain ⟨result, done, kept⟩ := ih simplifies inside.1 fun row member => inside.2 row member ▸ values row member
    refine ⟨.aliased result name, bind_ok.mpr ⟨result, done, rfl⟩, fun flat => ?_⟩
    obtain ⟨hidden, flat⟩ := flat
    obtain ⟨typed, values⟩ := kept flat
    rw [← simplify_surfaces restores done] at hidden
    have plain : (Expr.aliased result name).typeIn schema = result.typeIn schema ∧
        ∀ row, (Expr.aliased result name).valueIn schema row = result.valueIn schema row := by
      cases result with
      | aliased deeper other => exact absurd ⟨deeper, other, rfl⟩ hidden
      | _ => exact ⟨rfl, fun _ => rfl⟩
    exact ⟨plain.1 ▸ typed, fun row member => (plain.2 row).trans ((values row member).trans
      (inside.2 row member).symm)⟩
  | aggregate | wildcard => cases typed

end

theorem simplifies_of_done (restores : ArrowKernels.Restores F) (supports : ArrowKernels.Supports F)
    (done : expr.simplify schema = .ok result) (typed : expr.typeIn schema = some dataType) :
    expr.Simplifies schema := by
  induction expr generalizing result dataType with
  | column | literal => trivial
  | isNull inner negated ih =>
    obtain ⟨simplified, inside, _⟩ := bind_ok.mp done
    obtain ⟨_, innerTyped, _⟩ := Option.map_eq_some_iff.mp typed
    exact ih inside innerTyped
  | cast inner target ih =>
    obtain ⟨simplified, inside, _⟩ := bind_ok.mp done
    obtain ⟨_, innerTyped, _⟩ := typeIn_cast.mp typed
    refine ⟨ih inside innerTyped, fun value known => ?_⟩
    obtain ⟨_, constant⟩ := known ▸ (simplify_reflects restores done).1
    exact constant.named
  | aliased inner name ih =>
    obtain ⟨simplified, inside, _⟩ := bind_ok.mp done
    cases inner with
    | aliased deeper other => cases typed
    | _ => exact ih inside typed
  | binary left op right leftIh rightIh =>
    obtain ⟨leftType, rightType, leftTyped, rightTyped, known⟩ := typeIn_binary.mp typed
    obtain ⟨simpleLeft, simpleRight, outputType, leftDone, rightDone, output, _⟩ := simplify_binary restores done
    obtain ⟨leftInferred, rightInferred, leftFound, rightFound, inferred⟩ := dataType_binary.mp output
    have leftSimplifies := leftIh leftDone leftTyped
    have rightSimplifies := rightIh rightDone rightTyped
    obtain ⟨leftDeclared, leftExpected⟩ := exists_dataType leftSimplifies leftTyped
    obtain ⟨rightDeclared, rightExpected⟩ := exists_dataType rightSimplifies rightTyped
    have leftWidens := typeIn_widens schema.declares_self leftTyped leftExpected
    have rightWidens := typeIn_widens schema.declares_self rightTyped rightExpected
    -- Arithmetic on a type without a name would have had no type after simplification either.
    have numeric (arithmetic : op.isArithmetic = true) (name : String) : leftType ≠ .other name := by
      intro unnamed
      obtain rfl := leftWidens.unnamed.mp unnamed
      rcases simplify_narrows restores leftExpected leftDone leftFound with widens | ⟨⟨⟩, _⟩
      obtain rfl := widens.unnamed.mpr rfl
      rcases Operator.operandType_cases inferred with ⟨other, _⟩ | ⟨_, common⟩
      · cases other.symm.trans arithmetic
      · cases (DataType.commonNumericType_operands common).1 <;> contradiction
    obtain ⟨declared, operand⟩ := Operator.exists_operandType supports leftWidens rightWidens known numeric
    exact ⟨leftSimplifies, rightSimplifies,
      (simplify_keepsType restores leftExpected leftDone false).mpr ⟨leftInferred, leftFound, nofun⟩,
      (simplify_keepsType restores rightExpected rightDone false).mpr ⟨rightInferred, rightFound, nofun⟩,
      declared, dataType_binary.mpr ⟨_, _, leftExpected, rightExpected, operand⟩⟩
  | aggregate | wildcard => cases typed

theorem simplifyNode_typed (done : expr.simplifyNode schema = .ok result)
    (typed : result.typeIn schema = some dataType) (kept : ∀ outputType, expr.rewrite outputType = expr) :
    ∃ computed, expr.typeIn schema = some computed := by
  obtain ⟨outputType, _, ⟨folds, computed, value, found, _⟩ | ⟨_, rfl⟩⟩ := simplifyNode_ok.mp done
  · exact ⟨computed, (meaning_of_no_columns folds.1 schema _).1.trans found⟩
  · exact ⟨dataType, kept outputType ▸ typed⟩

theorem flat_of_typed (restores : ArrowKernels.Restores F) (done : expr.simplify schema = .ok result)
    (typed : result.typeIn schema = some dataType) : expr.Flat := by
  induction expr generalizing result dataType with
  | column | literal | aggregate | wildcard => trivial
  | isNull inner negated ih =>
    obtain ⟨simplified, inside, done⟩ := bind_ok.mp done
    obtain ⟨_, found⟩ := simplifyNode_typed done typed fun _ => rfl
    obtain ⟨_, innerTyped, _⟩ := Option.map_eq_some_iff.mp found
    exact fun _ => ih inside innerTyped
  | cast inner target ih =>
    obtain ⟨simplified, inside, done⟩ := bind_ok.mp done
    obtain ⟨_, found⟩ := simplifyNode_typed done typed fun _ => rfl
    obtain ⟨_, innerTyped, _⟩ := typeIn_cast.mp found
    exact fun _ => ih inside innerTyped
  | aliased inner name ih =>
    obtain ⟨simplified, inside, done⟩ := bind_ok.mp done
    cases done
    rw [Flat, ← simplify_surfaces restores inside]
    cases simplified with
    | aliased deeper other => cases typed
    | _ => exact ⟨by rintro ⟨_, _, ⟨⟩⟩, ih inside typed⟩
  | binary left op right leftIh rightIh =>
    obtain ⟨simpleLeft, simpleRight, outputType, leftDone, rightDone, _, known | ⟨open_, rewrites⟩⟩ :=
      simplify_binary restores done
    · obtain ⟨_, _, _, _, _, _, _, _, known, _⟩ := known
      exact flat_of_constant (by simp [known])
    cases rewrites with
    | null other found =>
      have known : (Expr.binary left op right).constant = some .null := Operator.folded_null open_ other found
      exact flat_of_constant (by simp [known])
    | decided logical _ _ found =>
      have known : (Expr.binary left op right).constant = some (.boolean (op == .or)) :=
        Operator.folded_decided open_ logical found
      exact flat_of_constant (by simp [known])
    | right logical found =>
      have leaves : LeavesRight left op right := ⟨logical, found, open_.resolve_left (by simp [found])⟩
      exact ⟨fun _ => rightIh rightDone typed, fun other => absurd other leaves.not_leavesLeft,
        fun _ other => absurd leaves other⟩
    | left logical _ found =>
      have leaves : LeavesLeft left op right := ⟨logical, open_.resolve_right (by simp [found]), found⟩
      exact ⟨fun other => absurd leaves other.not_leavesLeft, fun _ => leftIh leftDone typed,
        fun _ _ other => absurd leaves other⟩
    | kept _ undecided =>
      refine ⟨fun leaves => absurd leaves.2.1 (undecided leaves.1 _).1,
        fun leaves => absurd leaves.2.2 (undecided leaves.1 _).2, fun _ _ _ => ?_⟩
      obtain ⟨_, _, leftTyped, rightTyped, _⟩ := typeIn_binary.mp typed
      exact ⟨leftIh leftDone leftTyped, rightIh rightDone rightTyped⟩

end Expr

theorem exact_castsAlike : ArrowKernels.CastsAlike ℚ where
  widen source wide target normalized castable := by
    cases source <;> cases normalized <;> cases target <;> first | rfl | cases castable
  null source target _ _ := by simp [ArrowKernels.canCast]

def flagBatch : RecordBatch ℚ where
  schema := { fields := [⟨"flag", .boolean, true, .empty⟩, ⟨"n", .uint32, true, .empty⟩] }
  rows := [[.boolean true, .uint32 7], [.null, .null]]
  typed := by decide

end SparkX
