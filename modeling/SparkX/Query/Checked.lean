import SparkX.Query.Declared
import SparkX.Shared.Text

set_option autoImplicit false

namespace SparkX

variable {F : Type}

inductive Fault.IsValueError : Fault → Prop
  | divideByZero : IsValueError (.error (.arrow "Divide by zero error"))
  | overflow (message : String) : IsValueError (.error (.arrow s!"Arithmetic overflow: {message}"))

namespace Expr

def isRowwise : Expr F → Bool
  | .column _ | .literal _ => true
  | .binary left _ right => left.isRowwise && right.isRowwise
  | .isNull expr _ | .cast expr _ | .aliased expr _ => expr.isRowwise
  | .aggregate _ _ _ | .wildcard => false

end Expr

variable [ArrowKernels F]

-- What Arrow's documentation says about the types that the engine names.
structure ArrowKernels.Supports (F : Type) [ArrowKernels F] : Prop where
  cast_self : ∀ dataType, ArrowKernels.canCast F dataType dataType = true
  cast_numeric : ∀ source target, source.isNumeric = true → target.isNumeric = true →
    ArrowKernels.canCast F source target = true
  cast_null : ∀ target, (∀ name, target ≠ .other name) → ArrowKernels.canCast F .null target = true
  compare : ∀ dataType, (∀ name, dataType ≠ .other name) → ArrowKernels.canCompare F dataType = true

-- Two types that the kernels can compare with each other, where the engine has no name for one.
def ComparesUnnamed (F : Type) [ArrowKernels F] (left right : DataType) : Prop :=
  ∀ name, left = .other name ∨ right = .other name →
    ArrowKernels.canCompare F (.other name) = true ∧
      (left ≠ right → ArrowKernels.canCast F .null (.other name) = true)

def Operator.isComparison (op : Operator) : Bool := !op.isArithmetic && !op.isLogical

variable {common : DataType} {name : String}

namespace DataType

theorem commonNumericType_operands {left right : DataType}
    (found : left.commonNumericType right = some common) :
    (left = .null ∨ left.isNumeric = true) ∧ (right = .null ∨ right.isNumeric = true) ∧
      (left = .null → right ≠ .null) := by
  cases left <;> cases right <;> cases found <;> decide

variable {computed declared : DataType}

theorem Widens.same_family (widens : computed.Widens declared) (different : computed ≠ declared) :
    computed.commonNumericType computed = some declared ∧
      declared.commonNumericType declared = some declared := by
  rcases widens with rfl | normalized
  · exact absurd rfl different
  · cases computed <;> cases normalized <;> exact ⟨rfl, rfl⟩

theorem Widens.unnamed (widens : computed.Widens declared) :
    computed = .other name ↔ declared = .other name := by
  rcases widens with rfl | normalized
  · exact Iff.rfl
  · cases computed <;> cases normalized <;> simp

theorem Widens.untyped (widens : computed.Widens declared) : computed = .null ↔ declared = .null := by
  rcases widens with rfl | normalized
  · exact Iff.rfl
  · cases computed <;> cases normalized <;> simp

theorem Widens.boolean (widens : computed.Widens declared) :
    computed.isBooleanOrNull = declared.isBooleanOrNull := by
  rcases widens with rfl | normalized
  · rfl
  · cases computed <;> cases normalized <;> rfl

end DataType

namespace Operator

variable {op : Operator} {left right leftDeclared rightDeclared : DataType}

variable {target : DataType}

theorem resultType_cast {computed : DataType} (typed : ¬(left = .null ∧ right = .null))
    (different : left ≠ right) (targeted : op.targetType left right = some target) :
    op.resultType F left right = some computed ↔ ArrowKernels.canCast F left target = true ∧
      ArrowKernels.canCast F right target = true ∧ op.outputType F target = .ok computed := by
  unfold resultType
  rw [if_neg typed, if_neg different, targeted, Option.bind_eq_bind, Option.bind_some]
  split
  next castable =>
    obtain ⟨first, second⟩ := Bool.and_eq_true_iff.mp castable
    simp [toOption_eq_some, first, second]
  next refused =>
    rw [Bool.and_eq_true, not_and] at refused
    refine ⟨nofun, fun ⟨first, second, _⟩ => absurd second (refused first)⟩

theorem arithmetic_isSome (supports : ArrowKernels.Supports F) (arithmetic : op.isArithmetic = true)
    (found : left.commonNumericType right = some common) :
    ∃ computed, op.resultType F left right = some computed := by
  obtain ⟨first, second, typed⟩ := DataType.commonNumericType_operands found
  have output {dataType : DataType} (numeric : dataType.isNumeric = true) :
      op.outputType F dataType = .ok dataType :=
    (outputType_arithmetic arithmetic).mpr (arithmeticType_numeric numeric)
  have typed : ¬(left = .null ∧ right = .null) := fun both => typed both.1 both.2
  by_cases same : left = right
  · subst same
    have numeric := first.resolve_left fun untyped => typed ⟨untyped, untyped⟩
    refine ⟨left, ?_⟩
    rw [resultType, if_neg typed, if_pos rfl, output numeric]
    rfl
  · have numeric := DataType.commonNumericType_numeric found
    have castable {dataType : DataType} (known : dataType = .null ∨ dataType.isNumeric = true) :
        ArrowKernels.canCast F dataType common = true := by
      rcases known with rfl | known
      · refine supports.cast_null common fun name unnamed => ?_
        rw [unnamed] at numeric
        cases numeric
      · exact supports.cast_numeric _ _ known numeric
    have targeted : op.targetType left right = some common := by
      unfold targetType
      rw [if_pos arithmetic, found]
    exact ⟨common, (resultType_cast typed same targeted).mpr
      ⟨castable first, castable second, output numeric⟩⟩

def meetingType (left right : DataType) : Option DataType :=
  if left = right then some left
  else if left = .null then some right
  else if right = .null then some left
  else left.commonNumericType right

theorem targetType_other (other : op.isArithmetic = false) (different : left ≠ right) :
    op.targetType left right = meetingType left right := by
  unfold targetType meetingType
  rw [other, if_neg Bool.false_ne_true, if_neg different]
  split
  next => rfl
  next typed => rw [if_neg typed, if_pos rfl]
  next leftTyped rightTyped => rw [if_neg leftTyped, if_neg rightTyped]

theorem meetingType_casts (supports : ArrowKernels.Supports F) (typed : ¬(left = .null ∧ right = .null))
    (met : meetingType left right = some target) :
    (ArrowKernels.canCast F left target = true ∧ ArrowKernels.canCast F right target = true) ↔
      (left ≠ right → ∀ name, target = .other name → ArrowKernels.canCast F .null target = true) := by
  unfold meetingType at met
  have fromNull : ArrowKernels.canCast F .null target = true ↔
      ∀ name, target = .other name → ArrowKernels.canCast F .null target = true := by
    refine ⟨fun castable _ _ => castable, fun unnamed => ?_⟩
    by_cases known : ∃ name, target = .other name
    · obtain ⟨name, rfl⟩ := known
      exact unnamed name rfl
    · exact supports.cast_null target fun name same => known ⟨name, same⟩
  split at met
  next same =>
    cases met
    subst same
    simp [supports.cast_self]
  next different =>
    rw [← fromNull]
    split at met
    next untyped =>
      cases met
      subst untyped
      simp [supports.cast_self, different]
    next =>
      split at met
      next untyped =>
        cases met
        subst untyped
        simp [supports.cast_self, different]
      next leftTyped rightTyped =>
        obtain ⟨first, second, _⟩ := DataType.commonNumericType_operands met
        have numeric := DataType.commonNumericType_numeric met
        refine iff_of_true ⟨supports.cast_numeric _ _ (first.resolve_left leftTyped) numeric,
          supports.cast_numeric _ _ (second.resolve_left rightTyped) numeric⟩ fun _ => ?_
        refine fromNull.mpr fun name unnamed => ?_
        rw [unnamed] at numeric
        cases numeric

theorem other_isSome (supports : ArrowKernels.Supports F) (other : op.isArithmetic = false) :
    (∃ computed, op.resultType F left right = some computed) ↔
      left = .null ∧ right = .null ∨ ∃ target, meetingType left right = some target ∧
        (left ≠ right → ∀ name, target = .other name → ArrowKernels.canCast F .null target = true) ∧
        ∃ computed, op.outputType F target = .ok computed := by
  by_cases untyped : left = .null ∧ right = .null
  · obtain ⟨rfl, rfl⟩ := untyped
    exact iff_of_true ⟨.boolean, by simp [resultType, other]⟩ (.inl ⟨rfl, rfl⟩)
  rw [or_iff_right untyped]
  by_cases same : left = right
  · subst same
    rw [resultType, if_neg untyped, if_pos rfl]
    simp [toOption_eq_some, meetingType]
  cases met : meetingType left right with
  | none => simp [resultType, untyped, same, targetType_other other same, met]
  | some target =>
    have targeted := (targetType_other other same).trans met
    simp only [resultType_cast untyped same targeted, Option.some.injEq, exists_eq_left',
      ← meetingType_casts supports untyped met]
    simp only [and_assoc, exists_and_left]

theorem logical_isSome (supports : ArrowKernels.Supports F) (logical : op.isLogical = true) :
    (∃ computed, op.resultType F left right = some computed) ↔
      left.isBooleanOrNull = true ∧ right.isBooleanOrNull = true := by
  have other : op.isArithmetic = false := by cases op <;> first | rfl | cases logical
  have output (dataType : DataType) :
      (∃ computed, op.outputType F dataType = .ok computed) ↔ dataType = .boolean := by
    rw [outputType, other, if_neg Bool.false_ne_true, if_pos logical]
    split <;> simp_all
  simp only [other_isSome supports other, output]
  have casts (name : String) : DataType.boolean ≠ .other name := by simp
  simp only [exists_eq_right_right, casts, false_implies, implies_true]
  cases left <;> cases right <;>
    simp [meetingType, DataType.isBooleanOrNull, DataType.commonNumericType, DataType.isNumeric]

theorem meetingType_isSome : (∃ target, meetingType left right = some target) ↔
    left = right ∨ left = .null ∨ right = .null ∨ (left.commonNumericType right).isSome = true := by
  unfold meetingType
  split
  next same => simp [same]
  next =>
    split
    next untyped => simp [untyped]
    next =>
      split
      next untyped => simp [untyped]
      next => simp_all [Option.isSome_iff_exists]

theorem meetingType_unnamed (met : meetingType left right = some target) (name : String) :
    target = .other name ↔ left = .other name ∨ right = .other name := by
  unfold meetingType at met
  split at met
  next same => simp_all
  next =>
    split at met
    next untyped => simp_all
    next =>
      split at met
      next untyped => simp_all
      next => cases left <;> cases right <;> cases met <;> simp

theorem comparison_isSome (supports : ArrowKernels.Supports F) (comparison : op.isComparison = true) :
    (∃ computed, op.resultType F left right = some computed) ↔
      (left = right ∨ left = .null ∨ right = .null ∨ (left.commonNumericType right).isSome = true) ∧
        ComparesUnnamed F left right := by
  obtain ⟨other, never⟩ : op.isArithmetic = false ∧ op.isLogical = false := by
    simpa [isComparison] using comparison
  have output (dataType : DataType) : (∃ computed, op.outputType F dataType = .ok computed) ↔
      ArrowKernels.canCompare F dataType = true := by
    rw [outputType, other, if_neg Bool.false_ne_true, never, if_neg Bool.false_ne_true]
    split <;> simp_all
  rw [← meetingType_isSome]
  simp only [other_isSome supports other, output]
  constructor
  · rintro (⟨rfl, rfl⟩ | ⟨target, met, casts, compared⟩)
    · exact ⟨⟨.null, rfl⟩, fun name unnamed => by simp at unnamed⟩
    · refine ⟨⟨target, met⟩, fun name unnamed => ?_⟩
      obtain rfl := (meetingType_unnamed met name).mpr unnamed
      exact ⟨compared, fun different => casts different name rfl⟩
  · rintro ⟨⟨target, met⟩, unnamed⟩
    refine .inr ⟨target, met, ?_, ?_⟩
    · rintro different name rfl
      exact (unnamed name ((meetingType_unnamed met name).mp rfl)).2 different
    · by_cases named : ∃ name, target = .other name
      · obtain ⟨name, rfl⟩ := named
        exact (unnamed name ((meetingType_unnamed met name).mp rfl)).1
      · exact supports.compare target fun name same => named ⟨name, same⟩

theorem meets_of_widens (leftWidens : left.Widens leftDeclared) (rightWidens : right.Widens rightDeclared) :
    (left = right ∨ left = .null ∨ right = .null ∨ (left.commonNumericType right).isSome = true) ↔
      leftDeclared = rightDeclared ∨ leftDeclared = .null ∨ rightDeclared = .null ∨
        (leftDeclared.commonNumericType rightDeclared).isSome = true := by
  have common : left.commonNumericType right = leftDeclared.commonNumericType rightDeclared :=
    (DataType.commonNumericType_left leftWidens right).trans
      (DataType.commonNumericType_right rightWidens leftDeclared)
  rw [leftWidens.untyped, rightWidens.untyped]
  constructor
  · rintro (rfl | rest)
    · by_cases kept : left = leftDeclared ∧ left = rightDeclared
      · exact .inl (kept.1.symm.trans kept.2)
      · refine .inr (.inr (.inr (common ▸ ?_)))
        rcases not_and_or.mp kept with changed | changed
        · rw [(leftWidens.same_family changed).1]
          rfl
        · rw [(rightWidens.same_family changed).1]
          rfl
    · exact .inr (common ▸ rest)
  · rintro (rfl | rest)
    · by_cases kept : left = leftDeclared ∧ right = leftDeclared
      · exact .inl (kept.1.trans kept.2.symm)
      · refine .inr (.inr (.inr (common ▸ ?_)))
        rcases not_and_or.mp kept with changed | changed
        · rw [(leftWidens.same_family changed).2]
          rfl
        · rw [(rightWidens.same_family changed).2]
          rfl
    · exact .inr (common ▸ rest)

theorem comparesUnnamed_of_widens (leftWidens : left.Widens leftDeclared)
    (rightWidens : right.Widens rightDeclared) :
    ComparesUnnamed F left right ↔ ComparesUnnamed F leftDeclared rightDeclared := by
  refine forall_congr' fun name => ?_
  rw [leftWidens.unnamed, rightWidens.unnamed]
  refine imp_congr_right fun unnamed => and_congr_right fun _ => imp_congr_left (not_congr ?_)
  rcases unnamed with rfl | rfl
  · rw [leftWidens.unnamed.mpr rfl, eq_comm, rightWidens.unnamed, eq_comm]
  · rw [rightWidens.unnamed.mpr rfl, leftWidens.unnamed]

theorem resultType_isSome (supports : ArrowKernels.Supports F) (leftWidens : left.Widens leftDeclared)
    (rightWidens : right.Widens rightDeclared) {declared : DataType}
    (expected : op.operandType leftDeclared rightDeclared = .ok declared) :
    (∃ computed, op.resultType F left right = some computed) ↔
      (op.isComparison = true → ComparesUnnamed F leftDeclared rightDeclared) := by
  unfold operandType at expected
  split at expected
  next logical =>
    have never : op.isComparison = false := by simp [isComparison, logical]
    rw [logical_isSome supports logical, leftWidens.boolean, rightWidens.boolean, ← Bool.and_eq_true]
    split at expected <;> simp_all
  next other =>
    split at expected
    next arithmetic =>
      have never : op.isComparison = false := by simp [isComparison, arithmetic]
      rw [never]
      have common : left.commonNumericType right = some declared := by
        rw [DataType.commonNumericType_left leftWidens, DataType.commonNumericType_right rightWidens]
        exact okOr_ok.mp expected
      exact iff_of_true (arithmetic_isSome supports arithmetic common) nofun
    next rest =>
      have comparison : op.isComparison = true := by simp_all [isComparison]
      rw [comparison_isSome supports comparison, meets_of_widens leftWidens rightWidens,
        comparesUnnamed_of_widens leftWidens rightWidens]
      split at expected <;> simp_all

end Operator

variable {expr : Expr F} {schema : Schema}

namespace Expr

def Checked (schema : Schema) : Expr F → Prop
  | .binary left op right =>
    left.Checked schema ∧ right.Checked schema ∧
      (op.isComparison = true → ∀ leftType rightType, left.dataType schema = .ok leftType →
        right.dataType schema = .ok rightType → ComparesUnnamed F leftType rightType)
  -- `data_type` does not look at these operands, so that they may also be arithmetic for which only
  -- Arrow knows a type.
  | .isNull expr _ => ∃ computed, expr.typeIn schema = some computed
  | .cast expr target =>
    ∃ source, expr.typeIn schema = some source ∧ ArrowKernels.canCast F source target = true
  | .aliased expr _ => expr.Checked schema
  | .column _ | .literal _ | .aggregate _ _ _ | .wildcard => True

theorem typeIn_isSome (supports : ArrowKernels.Supports F) (rowwise : expr.isRowwise = true)
    {declared : DataType} (expected : expr.dataType schema = .ok declared) :
    (∃ computed, expr.typeIn schema = some computed) ↔ expr.Checked schema := by
  induction expr generalizing declared with
  | column name =>
    refine iff_of_true ?_ trivial
    obtain ⟨field, looked, _⟩ := map_eq_ok.mp expected
    obtain ⟨index, resolved, present⟩ := bind_ok.mp looked
    refine ⟨field.dataType, Option.bind_eq_some_iff.mpr
      ⟨index, Operator.toOption_eq_some.mpr (lift_ok.mp resolved), ?_⟩⟩
    rw [Schema.types, List.getElem?_map, expect_ok.mp present]
    rfl
  | literal value => exact iff_of_true ⟨_, rfl⟩ trivial
  | binary left op right leftIh rightIh =>
    obtain ⟨leftRow, rightRow⟩ := Bool.and_eq_true_iff.mp rowwise
    simp only [dataType, bind_ok, lift_ok] at expected
    obtain ⟨leftDeclared, leftExpected, rightDeclared, rightExpected, expected⟩ := expected
    simp only [typeIn, Checked, Option.bind_eq_bind, Option.bind_eq_some_iff, leftExpected, rightExpected,
      ← leftIh leftRow leftExpected, ← rightIh rightRow rightExpected]
    have meets {leftType rightType : DataType} (leftFound : left.typeIn schema = some leftType)
        (rightFound : right.typeIn schema = some rightType) :
        (∃ computed, op.resultType F leftType rightType = some computed) ↔
          (op.isComparison = true → ComparesUnnamed F leftDeclared rightDeclared) :=
      Operator.resultType_isSome supports (typeIn_widens schema.declares_self leftFound leftExpected)
        (typeIn_widens schema.declares_self rightFound rightExpected) expected
    constructor
    · rintro ⟨computed, leftType, leftFound, rightType, rightFound, found⟩
      refine ⟨⟨_, leftFound⟩, ⟨_, rightFound⟩, ?_⟩
      rintro comparison _ _ ⟨⟩ ⟨⟩
      exact (meets leftFound rightFound).mp ⟨_, found⟩ comparison
    · rintro ⟨⟨leftType, leftFound⟩, ⟨rightType, rightFound⟩, compares⟩
      obtain ⟨computed, found⟩ := (meets leftFound rightFound).mpr fun comparison =>
        compares comparison _ _ rfl rfl
      exact ⟨computed, leftType, leftFound, rightType, rightFound, found⟩
  | isNull expr negated ih => simp [typeIn, Checked]
  | cast expr target ih =>
    simp only [typeIn, Checked, Option.bind_eq_bind, Option.bind_eq_some_iff]
    constructor
    · rintro ⟨_, source, found, castable⟩
      refine ⟨source, found, ?_⟩
      by_contra refused
      rw [if_neg refused] at castable
      cases castable
    · rintro ⟨source, found, castable⟩
      exact ⟨target, source, found, if_pos castable⟩
  | aliased expr name ih =>
    cases expr with
    | aliased inner other => cases expected
    | _ => exact ih rowwise expected
  | aggregate function expr distinct ih => cases rowwise
  | wildcard => cases rowwise

end Expr

section

variable {error : SparkXError}

theorem Schema.resolveFieldIndex_error (failed : schema.resolveFieldIndex name = .error error) :
    ∃ message, error = .planning message := by
  unfold resolveFieldIndex at failed
  split at failed
  · cases failed
  · exact ⟨_, (Except.error.inj failed).symm⟩
  · split at failed
    · exact ⟨_, (Except.error.inj failed).symm⟩
    · split at failed
      · cases failed
      · exact ⟨_, (Except.error.inj failed).symm⟩
      · exact ⟨_, (Except.error.inj failed).symm⟩

variable {op : Operator}

theorem Operator.integer_error {left right : Int} (failed : op.integer left right = .error error) :
    Fault.IsValueError (.error error) := by
  unfold integer at failed
  split at failed
  case h_4 =>
    split at failed
    · cases failed
      exact .divideByZero
    · cases failed
  all_goals cases failed

theorem Operator.checked_error {α : Type} {left right : Int} {fit : Int → Option α}
    (failed : (do okOr (fit (← op.integer left right)) (op.overflow left right)) = .error error) :
    Fault.IsValueError (.error error) := by
  rcases bind_error.mp failed with failed | ⟨result, _, failed⟩
  · exact integer_error failed
  · cases fitted : fit result with
    | some value =>
      rw [fitted] at failed
      cases failed
    | none =>
      rw [fitted] at failed
      cases failed
      exact .overflow _

theorem Operator.numeric_error {dataType output : DataType} {left right : Value F}
    (known : op.arithmeticType F dataType = some output) (leftTyped : left.hasType dataType = true)
    (rightTyped : right.hasType dataType = true) (failed : op.numeric dataType left right = .error error) :
    Fault.IsValueError (.error error) := by
  unfold Operator.numeric at failed
  split at failed
  case h_3 | h_4 => exact checked_error (map_eq_error.mp failed)
  case h_5 | h_6 => exact checked_error (map_eq_error.mp failed)
  case h_9 first second =>
    have refused := map_eq_error.mp failed
    cases found : ArrowKernels.arithmetic F op dataType first second with
    | ok value =>
      rw [found] at refused
      cases refused
    | error error =>
      rw [found] at refused
      cases refused
      cases error with
      | divideByZero => exact .divideByZero
      | overflow message => exact .overflow message
  case h_10 =>
    -- Two values of one type for which there is arithmetic have a case of their own.
    cases dataType <;> try (cases known; done)
    all_goals cases left <;> try (cases leftTyped; done)
    all_goals cases right <;> first | (cases rightTyped; done) | simp_all
  all_goals cases failed

variable {left right : ArrayRef F} {computed : DataType}

theorem Operator.kernel_error (same : left.dataType = right.dataType)
    (known : op.outputType F left.dataType = .ok computed) (failed : op.kernel left right = .error error) :
    Fault.IsValueError (.error error) := by
  unfold kernel at failed
  split at failed
  next refused =>
    rw [known] at refused
    cases refused
  next =>
    split at failed
    next found applied =>
      obtain rfl := Except.error.inj failed
      obtain ⟨before, pair, after, split, _, here⟩ := Except.mapM_error.mp applied
      have inside : pair ∈ left.values.zip right.values := by simp [split]
      obtain ⟨first, second⟩ := List.of_mem_zip inside
      change op.apply left.dataType pair.1 pair.2 = .error found at here
      unfold apply at here
      split at here
      next arithmetic =>
        exact numeric_error ((outputType_arithmetic arithmetic).mp known) (left.typed _ first)
          (same ▸ right.typed _ second) here
      next =>
        split at here
        · cases here
        · split at here <;> cases here
    next => cases failed

variable {array : ArrayRef F}

theorem Operator.cast_error {target : DataType} (failed : array.cast target = .error error) :
    ArrowKernels.canCast F array.dataType target = false ∧ error = .arrow
      s!"Cast error: Casting from {array.dataType.toText} to {target.toText} not supported" := by
  rcases bind_error.mp failed with refused | ⟨_, _, failed⟩
  · obtain ⟨impossible, rfl⟩ := rejectIf_error.mp refused
    exact ⟨impossible, rfl⟩
  · cases failed

theorem Operator.combine_error {numRows : Nat}
    (known : op.resultType F left.dataType right.dataType = some computed)
    (failed : op.combine left right numRows = .error error) : Fault.IsValueError (.error error) := by
  unfold resultType at known
  unfold combine at failed
  split at failed
  next untyped =>
    rw [if_pos untyped] at known
    split at failed
    next arithmetic =>
      rw [if_pos arithmetic] at known
      cases known
    next => cases failed
  next typed =>
    rw [if_neg typed] at known
    split at failed
    next same =>
      rw [if_pos same] at known
      exact kernel_error same (toOption_eq_some.mp known) failed
    next different =>
      rw [if_neg different] at known
      obtain ⟨target, targeted, rest⟩ := Option.bind_eq_some_iff.mp known
      split at rest
      next castable =>
        obtain ⟨first, second⟩ := Bool.and_eq_true_iff.mp castable
        rw [targeted] at failed
        have casted (array : ArrayRef F) (possible : ArrowKernels.canCast F array.dataType target = true) :
            array.cast target = .ok (array.castSlots target) := cast_eq_ok.mpr ⟨possible, rfl⟩
        change (do op.kernel (← left.cast target) (← right.cast target)) = .error error at failed
        rw [casted left first, casted right second] at failed
        change op.kernel (left.castSlots target) (right.castSlots target) = .error error at failed
        have same : (left.castSlots target).dataType = (right.castSlots target).dataType := rfl
        exact kernel_error same (toOption_eq_some.mp rest) failed
      next => cases rest

theorem evaluate_error {batch : RecordBatch F} {fault : Fault}
    (typed : expr.typeIn batch.schema = some computed) (failed : evaluate expr batch = .error fault) :
    fault.IsValueError := by
  induction expr generalizing computed with
  | column name =>
    obtain ⟨index, resolved, known⟩ := Option.bind_eq_some_iff.mp typed
    rw [Operator.toOption_eq_some] at resolved
    obtain ⟨array, found⟩ := RecordBatch.exists_column (Schema.resolveFieldIndex_lt resolved)
    simp only [evaluate, resolved] at failed
    change expect (batch.column index) _ = _ at failed
    rw [found] at failed
    cases failed
  | literal value => cases failed
  | binary left op right leftIh rightIh =>
    simp only [Expr.typeIn, Option.bind_eq_bind, Option.bind_eq_some_iff] at typed
    obtain ⟨leftType, leftTyped, rightType, rightTyped, known⟩ := typed
    rcases bind_error.mp failed with failed | ⟨leftArray, leftFound, failed⟩
    · exact leftIh leftTyped failed
    rcases bind_error.mp failed with failed | ⟨rightArray, rightFound, failed⟩
    · exact rightIh rightTyped failed
    obtain ⟨error, combined, rfl⟩ := lift_error.mp failed
    have leftSame := (evaluate_eq_ok.mp leftFound).1
    have rightSame := (evaluate_eq_ok.mp rightFound).1
    obtain rfl := Option.some.inj (leftTyped.symm.trans leftSame)
    obtain rfl := Option.some.inj (rightTyped.symm.trans rightSame)
    exact Operator.combine_error known combined
  | isNull expr negated ih =>
    obtain ⟨_, found, _⟩ := Option.map_eq_some_iff.mp typed
    rcases bind_error.mp failed with failed | ⟨_, _, failed⟩
    · exact ih found failed
    · cases failed
  | cast expr target ih =>
    obtain ⟨source, found, castable⟩ := Option.bind_eq_some_iff.mp typed
    rcases bind_error.mp failed with failed | ⟨array, evaluated, failed⟩
    · exact ih found failed
    obtain ⟨error, refused, rfl⟩ := lift_error.mp failed
    obtain rfl := Option.some.inj (found.symm.trans (evaluate_eq_ok.mp evaluated).1)
    rw [(Operator.cast_error refused).1] at castable
    cases castable
  | aliased expr name ih =>
    cases expr with
    | aliased inner other => cases typed
    | _ => exact ih typed failed
  | aggregate function expr distinct ih => cases typed
  | wildcard => cases typed

theorem Fault.IsValueError.first_letter {message : String}
    (value : Fault.IsValueError (.error (.arrow message))) :
    message.toList.head? = some 'D' ∨ message.toList.head? = some 'A' := by
  generalize known : Fault.error (.arrow message) = fault at value
  cases value with
  | divideByZero =>
    obtain rfl := SparkXError.arrow.inj (Fault.error.inj known)
    exact .inl rfl
  | overflow text =>
    obtain rfl := SparkXError.arrow.inj (Fault.error.inj known)
    simp [Text.toString_text]

theorem Fault.not_valueError
    (other : ∀ message, error = .arrow message → message.toList.head? = some 'C' ∨ message.toList.head? = some 'I') :
    ¬Fault.IsValueError (.error error) := by
  intro value
  cases error with
  | arrow message =>
    have first := value.first_letter
    have second := other message rfl
    grind
  | _ => cases value

theorem Operator.cast_not_valueError {target : DataType} (failed : array.cast target = .error error) :
    ¬Fault.IsValueError (.error error) := by
  obtain ⟨_, rfl⟩ := cast_error failed
  refine Fault.not_valueError ?_
  rintro message ⟨⟩
  simp [Text.toString_text]

theorem Operator.outputType_not_valueError {dataType : DataType}
    (failed : op.outputType F dataType = .error error) : ¬Fault.IsValueError (.error error) := by
  have invalid (kind : String) : ¬Fault.IsValueError (.error (op.invalid kind dataType)) := by
    refine Fault.not_valueError ?_
    rintro message ⟨⟩
    simp [Text.toString_text]
  unfold outputType at failed
  split at failed
  · cases known : op.arithmeticType F dataType with
    | some output =>
      rw [known] at failed
      cases failed
    | none =>
      rw [known] at failed
      exact Except.error.inj failed ▸ invalid _
  · split at failed
    · split at failed
      · cases failed
      · exact Except.error.inj failed ▸ Fault.not_valueError nofun
    · split at failed
      · cases failed
      · exact Except.error.inj failed ▸ invalid _

theorem Operator.kernel_nil_error (none : left.values = []) (failed : op.kernel left right = .error error) :
    ¬Fault.IsValueError (.error error) := by
  unfold kernel at failed
  split at failed
  next refused => exact Except.error.inj failed ▸ outputType_not_valueError refused
  next =>
    split at failed
    next applied =>
      rw [none] at applied
      cases applied
    next => cases failed

theorem Operator.combine_nil_error (none : left.values = [])
    (failed : op.combine left right 0 = .error error) : ¬Fault.IsValueError (.error error) := by
  unfold combine at failed
  split at failed
  · split at failed
    · exact Except.error.inj failed ▸ Fault.not_valueError nofun
    · cases failed
  · split at failed
    · exact kernel_nil_error none failed
    · rcases bind_error.mp failed with failed | ⟨target, _, failed⟩
      · cases found : op.targetType left.dataType right.dataType with
        | some target =>
          rw [found] at failed
          cases failed
        | none =>
          rw [found] at failed
          exact Except.error.inj failed ▸ Fault.not_valueError nofun
      rcases bind_error.mp failed with refused | ⟨first, casted, failed⟩
      · exact cast_not_valueError refused
      rcases bind_error.mp failed with refused | ⟨second, _, failed⟩
      · exact cast_not_valueError refused
      obtain ⟨_, rfl⟩ := cast_eq_ok.mp casted
      exact kernel_nil_error (by simp [ArrayRef.castSlots, none]) failed

theorem evaluate_newEmpty_error {fault : Fault} (failed : evaluate expr (.newEmpty schema) = .error fault) :
    ¬fault.IsValueError := by
  induction expr with
  | column name =>
    rcases bind_error.mp failed with failed | ⟨index, resolved, failed⟩
    · obtain ⟨error, unresolved, rfl⟩ := lift_error.mp failed
      obtain ⟨message, rfl⟩ := Schema.resolveFieldIndex_error unresolved
      exact Fault.not_valueError nofun
    · obtain ⟨array, found⟩ := RecordBatch.exists_column (Schema.resolveFieldIndex_lt (lift_ok.mp resolved))
      rw [found] at failed
      cases failed
  | literal value => cases failed
  | binary left op right leftIh rightIh =>
    rcases bind_error.mp failed with failed | ⟨leftArray, leftFound, failed⟩
    · exact leftIh failed
    rcases bind_error.mp failed with failed | ⟨rightArray, rightFound, failed⟩
    · exact rightIh failed
    obtain ⟨error, combined, rfl⟩ := lift_error.mp failed
    have none : leftArray.values = [] := List.forall₂_nil_left_iff.mp (evaluate_eq_ok.mp leftFound).2
    exact Operator.combine_nil_error none combined
  | isNull expr negated ih =>
    rcases bind_error.mp failed with failed | ⟨_, _, failed⟩
    · exact ih failed
    · cases failed
  | cast expr target ih =>
    rcases bind_error.mp failed with failed | ⟨array, evaluated, failed⟩
    · exact ih failed
    obtain ⟨error, refused, rfl⟩ := lift_error.mp failed
    exact Operator.cast_not_valueError refused
  | aliased expr name ih =>
    cases expr with
    | aliased inner other =>
      cases failed
      exact nofun
    | _ => exact ih failed
  | aggregate function expr distinct ih =>
    cases failed
    exact nofun
  | wildcard =>
    cases failed
    exact nofun

end

theorem Expr.fails_on_values_only (supports : ArrowKernels.Supports F) {expr : Expr F} {schema : Schema}
    {declared : DataType} (rowwise : expr.isRowwise = true) (expected : expr.dataType schema = .ok declared) :
    (∀ (batch : RecordBatch F) fault, batch.schema = schema → evaluate expr batch = .error fault →
      fault.IsValueError) ↔ expr.Checked schema := by
  constructor
  · intro values
    have evaluated : ∃ array, evaluate expr (.newEmpty schema) = .ok array := by
      cases found : evaluate expr (.newEmpty schema) with
      | ok array => exact ⟨array, rfl⟩
      | error fault => exact absurd (values _ fault rfl found) (evaluate_newEmpty_error found)
    obtain ⟨array, evaluated⟩ := evaluated
    exact (typeIn_isSome supports rowwise expected).mp ⟨_, (evaluate_eq_ok.mp evaluated).1⟩
  · rintro checked batch fault rfl failed
    obtain ⟨computed, typed⟩ := (typeIn_isSome supports rowwise expected).mpr checked
    exact evaluate_error typed failed

theorem exact_supports : ArrowKernels.Supports ℚ where
  cast_self dataType := by simp [ArrowKernels.canCast]
  cast_numeric source target first second := by simp [ArrowKernels.canCast, first, second]
  cast_null target _ := by simp [ArrowKernels.canCast]
  compare _ _ := rfl

theorem Expr.fails_on_values_only_of_cast :
    let expr : Expr ℚ := .isNull (.cast (.column "a") .float64) false
    expr.dataType narrowColumn.schema = .ok .boolean ∧
      ∀ (batch : RecordBatch ℚ) fault, batch.schema = narrowColumn.schema →
        evaluate expr batch = .error fault → fault.IsValueError := by
  refine ⟨rfl, (Expr.fails_on_values_only exact_supports rfl rfl).mpr ⟨.float64, rfl⟩⟩

theorem Expr.null_test_of_missing_column :
    let expr : Expr ℚ := .isNull (.column "missing") false
    expr.isRowwise = true ∧ expr.dataType narrowColumn.schema = .ok .boolean ∧
      evaluate expr narrowColumn = .error (.error (.planning "column 'missing' does not exist")) ∧
      ¬Fault.IsValueError (.error (.planning "column 'missing' does not exist")) :=
  ⟨rfl, rfl, rfl, Fault.not_valueError nofun⟩

end SparkX
