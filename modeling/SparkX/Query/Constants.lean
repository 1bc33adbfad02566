import SparkX.Query.Checked
import SparkX.Query.Simplify

set_option autoImplicit false

namespace SparkX

variable {F : Type}

theorem DataType.isBooleanOrNull_iff {dataType : DataType} :
    dataType.isBooleanOrNull = true ↔ dataType = .boolean ∨ dataType = .null := by
  cases dataType <;> simp [isBooleanOrNull]

namespace Value

def isNamed : Value F → Bool
  | .other _ => false
  | _ => true

def ownType : Value F → DataType
  | .boolean _ => .boolean
  | .int32 _ => .int32
  | .int64 _ => .int64
  | .uint32 _ => .uint32
  | .uint64 _ => .uint64
  | .float32 _ => .float32
  | .float64 _ => .float64
  | .utf8 _ => .utf8
  | .null | .other _ => .null

variable {value : Value F}

theorem ownType_of_hasType {dataType : DataType} (typed : value.hasType dataType = true)
    (named : value.isNamed = true) (known : value ≠ .null) : value.ownType = dataType := by
  cases value with
  | null => exact absurd rfl known
  | other encoded => cases named
  | _ => cases dataType <;> first | rfl | cases typed

theorem valueAt_ok {dataType : DataType} {scalar : ScalarValue F} :
    valueAt dataType value = .ok scalar ↔ value.isNamed = true ∧ scalar = value.scalar := by
  cases value with
  | other encoded => exact iff_of_false nofun (fun both => nomatch both.1)
  | _ => exact ⟨fun read => ⟨rfl, (Except.ok.inj read).symm⟩, fun both => both.2 ▸ rfl⟩

theorem scalar_eq_null (named : value.isNamed = true) : value.scalar = .null ↔ value = .null := by
  cases value <;> simp_all [scalar, isNamed]

theorem scalar_eq_boolean {known : Bool} : value.scalar = .boolean known ↔ value = .boolean known := by
  cases value <;> simp [scalar]

end Value

theorem Expr.binary_folds {left right : Expr F} {op : Operator} :
    (Expr.binary left op right).folds ↔ left.folds ∧ right.folds := by
  simp only [Expr.folds, Expr.columns, Expr.containsAggregate, Finset.union_eq_empty, Bool.or_eq_false_iff]
  exact and_and_and_comm

variable [ArrowKernels F]

-- What Arrow's documentation says about a scalar that is cast back to the type it was read from.
structure ArrowKernels.Restores (F : Type) [ArrowKernels F] : Prop extends ArrowKernels.KeepsValues F where
  restore : ∀ dataType (value : Value F), value.hasType dataType = true → value.isNamed = true →
    value.Stored → ArrowKernels.castValue value.scalar.dataType dataType value.scalar.toValue = value
  stored : ∀ source target (value : Value F), (ArrowKernels.castValue source target value).Stored
  narrow : ∀ number : F, FloatOps.narrow (FloatOps.narrow number) = FloatOps.narrow number

-- Arrow casts NULL to every type that it casts another type to.
def ArrowKernels.CastsNull (F : Type) [ArrowKernels F] : Prop :=
  ∀ source target, source ≠ target → ArrowKernels.canCast F source target = true →
    ArrowKernels.canCast F .null target = true

namespace Operator

variable {op : Operator} {leftType rightType computed : DataType} {left right value : Value F}

def folded (op : Operator) : Option (Value F) → Option (Value F) → Option (Value F)
  | some left, some right => op.result left.ownType right.ownType left right
  | left, right =>
    if op.isLogical then
      if left = some (.boolean (op == .or)) ∨ right = some (.boolean (op == .or)) then
        some (.boolean (op == .or))
      else none
    else if left = some .null ∨ right = some .null then some .null
    else none

theorem neutral_ne (logical : op.isLogical = true) : (op == .and) ≠ (op == .or) := by
  cases op <;> first | decide | cases logical

variable {leftKnown rightKnown : Option (Value F)}

theorem folded_open (open_ : leftKnown = none ∨ rightKnown = none) : op.folded leftKnown rightKnown =
      if op.isLogical then
        if leftKnown = some (.boolean (op == .or)) ∨ rightKnown = some (.boolean (op == .or)) then
          some (.boolean (op == .or))
        else none
      else if leftKnown = some .null ∨ rightKnown = some .null then some .null
      else none := by
  cases leftKnown with
  | none => rfl
  | some left =>
    cases rightKnown with
    | none => rfl
    | some right => simp at open_

theorem folded_neutral (logical : op.isLogical = true)
    (known : leftKnown = some (.boolean (op == .and)) ∧ rightKnown = none ∨
      leftKnown = none ∧ rightKnown = some (.boolean (op == .and))) :
    op.folded leftKnown rightKnown = none := by
  have other := neutral_ne logical
  rcases known with ⟨rfl, rfl⟩ | ⟨rfl, rfl⟩
  · rw [folded_open (.inr rfl), if_pos logical, if_neg (by simp [other])]
  · rw [folded_open (.inl rfl), if_pos logical, if_neg (by simp [other])]

theorem folded_null (open_ : leftKnown = none ∨ rightKnown = none) (other : op.isLogical = false)
    (found : leftKnown = some .null ∨ rightKnown = some .null) :
    op.folded leftKnown rightKnown = some .null := by
  rw [folded_open open_, other, if_neg Bool.false_ne_true, if_pos found]

theorem folded_decided (open_ : leftKnown = none ∨ rightKnown = none) (logical : op.isLogical = true)
    (found : leftKnown = some (.boolean (op == .or)) ∨ rightKnown = some (.boolean (op == .or))) :
    op.folded leftKnown rightKnown = some (.boolean (op == .or)) := by
  rw [folded_open open_, if_pos logical, if_pos found]

theorem folded_none (open_ : leftKnown = none ∨ rightKnown = none)
    (typed : op.isLogical = false → leftKnown ≠ some .null ∧ rightKnown ≠ some .null)
    (undecided : op.isLogical = true →
      leftKnown ≠ some (.boolean (op == .or)) ∧ rightKnown ≠ some (.boolean (op == .or))) :
    op.folded leftKnown rightKnown = none := by
  rw [folded_open open_]
  split
  next logical => exact if_neg (not_or.mpr (undecided logical))
  next other => exact if_neg (not_or.mpr (typed (Bool.eq_false_iff.mpr other)))

theorem apply_null (dataType : DataType) (other : op.isLogical = false)
    (missing : left = .null ∨ right = .null) : op.apply dataType left right = .ok .null := by
  unfold apply
  split
  · rcases missing with rfl | rfl
    · rfl
    · cases left <;> rfl
  · rw [other, if_neg Bool.false_ne_true, if_pos]
    rcases missing with rfl | rfl
    · rfl
    · exact Bool.or_true _

theorem result_null (keeps : ArrowKernels.KeepsValues F) (other : op.isLogical = false)
    (meets : leftType = rightType ∨ ∃ target, op.targetType leftType rightType = some target)
    (missing : left = .null ∨ right = .null) : op.result leftType rightType left right = some .null := by
  unfold result
  split
  · rfl
  split
  · rw [apply_null _ other missing]
    rfl
  next different =>
    obtain ⟨target, targeted⟩ := meets.resolve_left different
    rw [targeted, Option.bind_eq_bind, Option.bind_some, apply_null _ other]
    · rfl
    · rcases missing with rfl | rfl
      · exact .inl (keeps.null _ _)
      · exact .inr (keeps.null _ _)

theorem toBool_cast (keeps : ArrowKernels.KeepsValues F) {dataType : DataType}
    (known : dataType.isBooleanOrNull = true) (typed : value.hasType dataType = true) :
    (ArrowKernels.castValue dataType .boolean value).toBool = value.toBool := by
  cases dataType with
  | boolean => rw [keeps.self _ _ typed]
  | null =>
    have missing : value = .null := by cases value <;> first | rfl | cases typed
    rw [missing, keeps.null]
  | _ => cases known

theorem result_logical (keeps : ArrowKernels.KeepsValues F) (logical : op.isLogical = true)
    (leftKnown : leftType.isBooleanOrNull = true) (rightKnown : rightType.isBooleanOrNull = true)
    (leftTyped : left.hasType leftType = true) (rightTyped : right.hasType rightType = true) :
    op.result leftType rightType left right = some (.ofBool (op.kleene left.toBool right.toBool)) := by
  have other : op.isArithmetic = false := by cases op <;> first | rfl | cases logical
  have apply (dataType : DataType) (left right : Value F) :
      op.apply dataType left right = .ok (.ofBool (op.kleene left.toBool right.toBool)) := by
    unfold apply
    rw [other, if_neg Bool.false_ne_true, if_pos logical]
  unfold result
  split
  next untyped =>
    obtain ⟨rfl, rfl⟩ := untyped
    have leftNull : left = .null := by cases left <;> first | rfl | cases leftTyped
    have rightNull : right = .null := by cases right <;> first | rfl | cases rightTyped
    subst leftNull rightNull
    cases op <;> rfl
  next typed =>
    split
    · rw [apply]
      rfl
    next different =>
      have targeted : op.targetType leftType rightType = some .boolean := by
        unfold targetType
        rw [other, if_neg Bool.false_ne_true]
        rcases DataType.isBooleanOrNull_iff.mp leftKnown with rfl | rfl <;>
          rcases DataType.isBooleanOrNull_iff.mp rightKnown with rfl | rfl <;>
          first | rfl | exact absurd rfl different
      rw [targeted, Option.bind_eq_bind, Option.bind_some, apply, toBool_cast keeps leftKnown leftTyped,
        toBool_cast keeps rightKnown rightTyped]
      rfl

theorem resultType_meets (found : op.resultType F leftType rightType = some computed) :
    leftType = rightType ∨ ∃ target, op.targetType leftType rightType = some target := by
  unfold resultType at found
  split at found
  next both => exact .inl (both.1.trans both.2.symm)
  split at found
  next same => exact .inl same
  next =>
    obtain ⟨target, targeted, _⟩ := Option.bind_eq_some_iff.mp found
    exact .inr ⟨target, targeted⟩

theorem resultType_logical (logical : op.isLogical = true)
    (found : op.resultType F leftType rightType = some computed) :
    leftType.isBooleanOrNull = true ∧ rightType.isBooleanOrNull = true := by
  have other : op.isArithmetic = false := by cases op <;> first | rfl | cases logical
  have output {dataType computed : DataType} (known : op.outputType F dataType = .ok computed) :
      dataType = .boolean := by
    unfold outputType at known
    rw [other, if_neg Bool.false_ne_true, if_pos logical] at known
    split at known
    · assumption
    · cases known
  unfold resultType at found
  split at found
  next both =>
    obtain ⟨rfl, rfl⟩ := both
    exact ⟨rfl, rfl⟩
  split at found
  next same =>
    subst same
    rw [output (toOption_eq_some.mp found)]
    exact ⟨rfl, rfl⟩
  next different =>
    obtain ⟨target, targeted, rest⟩ := Option.bind_eq_some_iff.mp found
    split at rest
    next =>
      obtain rfl := output (toOption_eq_some.mp rest)
      unfold targetType at targeted
      rw [other, if_neg Bool.false_ne_true] at targeted
      cases leftType <;> cases rightType <;> first | exact ⟨rfl, rfl⟩ | cases targeted
    next => cases rest

theorem resultType_numeric (arithmetic : op.isArithmetic = true)
    (found : op.resultType F leftType rightType = some computed) :
    (∃ name, leftType = .other name ∧ rightType = .other name) ∨
      (leftType = .null ∨ leftType.isNumeric = true) ∧ (rightType = .null ∨ rightType.isNumeric = true) := by
  rcases resultType_cases found with ⟨other, _⟩ | ⟨_, ⟨rfl, output⟩ | ⟨_, common⟩⟩
  · rw [arithmetic] at other
    cases other
  · rcases arithmeticType_eq_some.mp output with ⟨numeric, _⟩ | ⟨name, _, unnamed, _⟩
    · exact .inr ⟨.inr numeric, .inr numeric⟩
    · exact .inl ⟨name, unnamed, unnamed⟩
  · have ⟨first, second, _⟩ := DataType.commonNumericType_operands common
    exact .inr ⟨first, second⟩

theorem null_meets {dataType : DataType}
    (numeric : op.isArithmetic = true → dataType = .null ∨ dataType.isNumeric = true) :
    (.null = dataType ∨ ∃ target, op.targetType .null dataType = some target) ∧
      (dataType = .null ∨ ∃ target, op.targetType dataType .null = some target) := by
  unfold targetType
  cases arithmetic : op.isArithmetic with
  | false => cases dataType <;> simp
  | true =>
    have := numeric arithmetic
    cases dataType <;>
      simp_all [DataType.isNumeric, DataType.commonNumericType, DataType.normalizedNumericType]

theorem result_ownType (keeps : ArrowKernels.KeepsValues F) (leftTyped : left.hasType leftType = true)
    (rightTyped : right.hasType rightType = true) (leftNamed : left.isNamed = true)
    (rightNamed : right.isNamed = true) (known : op.resultType F leftType rightType = some computed) :
    op.result left.ownType right.ownType left right = op.result leftType rightType left right := by
  have own {value : Value F} : value.hasType value.ownType = true ∨ value.isNamed = false := by
    cases value <;> simp [Value.ownType, Value.hasType, Value.isNamed]
  have leftOwn := own.resolve_right (Bool.eq_false_iff.not.mpr (not_not.mpr leftNamed))
  have rightOwn := own.resolve_right (Bool.eq_false_iff.not.mpr (not_not.mpr rightNamed))
  by_cases missing : left = .null ∨ right = .null
  swap
  · obtain ⟨leftFound, rightFound⟩ := not_or.mp missing
    rw [Value.ownType_of_hasType leftTyped leftNamed leftFound,
      Value.ownType_of_hasType rightTyped rightNamed rightFound]
  cases logical : op.isLogical with
  | true =>
    have ⟨leftKnown, rightKnown⟩ := resultType_logical logical known
    have kept {value : Value F} {dataType : DataType} (known : dataType.isBooleanOrNull = true)
        (typed : value.hasType dataType = true) : value.ownType.isBooleanOrNull = true := by
      rcases DataType.isBooleanOrNull_iff.mp known with rfl | rfl <;> cases value <;> first | rfl | cases typed
    rw [result_logical keeps logical leftKnown rightKnown leftTyped rightTyped,
      result_logical keeps logical (kept leftKnown leftTyped) (kept rightKnown rightTyped) leftOwn rightOwn]
  | false =>
    rw [result_null keeps logical (resultType_meets known) missing, result_null keeps logical ?_ missing]
    -- A value with a name in an array of another type is a null.
    have numeric {value : Value F} {dataType : DataType} (typed : value.hasType dataType = true)
        (named : value.isNamed = true)
        (operand : (∃ name, dataType = .other name) ∨ dataType = .null ∨ dataType.isNumeric = true) :
        value.ownType = .null ∨ value.ownType.isNumeric = true := by
      by_cases missing : value = .null
      · exact .inl (missing ▸ rfl)
      · rw [Value.ownType_of_hasType typed named missing]
        refine operand.resolve_left ?_
        rintro ⟨name, rfl⟩
        cases value <;> first | exact missing rfl | (cases typed; done) | cases named
    rcases missing with rfl | rfl
    · refine (null_meets fun arithmetic => numeric rightTyped rightNamed ?_).1
      exact (resultType_numeric arithmetic known).imp (Exists.imp fun _ => And.right) And.right
    · refine (null_meets fun arithmetic => numeric leftTyped leftNamed ?_).2
      exact (resultType_numeric arithmetic known).imp (Exists.imp fun _ => And.left) And.left

end Operator

namespace Expr

def constant : Expr F → Option (Value F)
  | .literal value => some value.toValue
  | .binary left op right => op.folded left.constant right.constant
  | .isNull expr negated => expr.constant.map fun value => .boolean (value.isNull != negated)
  | .cast expr target => expr.constant.map fun value => ArrowKernels.castValue value.ownType target value
  | .aliased (.aliased _ _) _ => none
  | .aliased expr _ => expr.constant
  | .column _ | .aggregate _ _ _ | .wildcard => none

-- The literal of a value in an array of a type, possibly under a name.
structure IsConstant (value : Value F) (dataType : DataType) (expr : Expr F) : Prop where
  literal : expr.unalias = typedLiteral value.scalar dataType
  typed : value.hasType dataType = true
  named : value.isNamed = true
  stored : value.Stored

-- An expression that is not evaluated while it is simplified, or that has no value without columns,
-- and that decides nothing for the expressions around it.
structure Varying (expr : Expr F) : Prop where
  unknown : expr.folds → expr.typeIn { fields := [] } = none
  nullable : expr.isNullExpression = false
  undecided : expr.booleanLiteral = none

def Reflects (expr : Expr F) : Option (Value F) → Prop
  | some value => ∃ dataType, expr.IsConstant value dataType
  | none => expr.Varying

theorem typeIn_cast {expr : Expr F} {schema : Schema} {target computed : DataType} :
    (Expr.cast expr target).typeIn schema = some computed ↔ ∃ source, expr.typeIn schema = some source ∧
      ArrowKernels.canCast F source target = true ∧ computed = target := by
  simp only [typeIn, Option.bind_eq_bind, Option.bind_eq_some_iff]
  refine exists_congr fun source => and_congr_right fun _ => ?_
  split
  next castable =>
    simp only [castable, true_and, Option.some.injEq]
    exact eq_comm
  next refused => simp [refused]

theorem meaning_of_no_columns {expr : Expr F} (none : expr.columns = ∅) (here there : Schema) :
    expr.typeIn here = expr.typeIn there ∧
      ∀ row other, expr.valueIn here row = expr.valueIn there other := by
  induction expr with
  | column name => exact absurd none (Finset.singleton_ne_empty _)
  | binary left op right leftIh rightIh =>
    simp only [columns, Finset.union_eq_empty] at none
    obtain ⟨leftType, leftValue⟩ := leftIh none.1
    obtain ⟨rightType, rightValue⟩ := rightIh none.2
    refine ⟨by rw [typeIn, typeIn, leftType, rightType], fun row other => ?_⟩
    rw [valueIn, valueIn, leftValue row other, rightValue row other, leftType, rightType]
  | isNull inner negated ih =>
    obtain ⟨sameType, sameValue⟩ := ih none
    exact ⟨by rw [typeIn, typeIn, sameType],
      fun row other => by rw [valueIn, valueIn, sameValue row other]⟩
  | cast inner target ih =>
    obtain ⟨sameType, sameValue⟩ := ih none
    exact ⟨by rw [typeIn, typeIn, sameType],
      fun row other => by rw [valueIn, valueIn, sameValue row other, sameType]⟩
  | aliased inner name ih =>
    cases inner with
    | aliased deeper other => exact ⟨rfl, fun _ _ => rfl⟩
    | _ => exact ih none
  | literal | aggregate | wildcard => exact ⟨rfl, fun _ _ => rfl⟩

namespace IsConstant

variable {expr : Expr F} {value : Value F} {dataType : DataType} {schema : Schema}

theorem forms (constant : expr.IsConstant value dataType) :
    (expr = .literal value.scalar ∨ ∃ name, expr = .aliased (.literal value.scalar) name) ∧
        value.scalar.dataType = dataType ∨
      (expr = .cast (.literal value.scalar) dataType ∨
        ∃ name, expr = .aliased (.cast (.literal value.scalar) dataType) name) := by
  have literal := constant.literal
  unfold typedLiteral at literal
  split at literal
  next same =>
    refine .inl ⟨?_, same⟩
    cases expr with
    | aliased inner name => exact .inr ⟨name, congrArg (aliased · name) literal⟩
    | _ => exact .inl literal
  next =>
    refine .inr ?_
    cases expr with
    | aliased inner name => exact .inr ⟨name, congrArg (aliased · name) literal⟩
    | _ => exact .inl literal

theorem folds (constant : expr.IsConstant value dataType) : expr.folds := by
  rcases constant.forms with ⟨rfl | ⟨name, rfl⟩, _⟩ | rfl | ⟨name, rfl⟩ <;> exact ⟨rfl, rfl⟩

theorem dataType_eq (constant : expr.IsConstant value dataType) : expr.dataType schema = .ok dataType := by
  rcases constant.forms with ⟨rfl | ⟨name, rfl⟩, same⟩ | rfl | ⟨name, rfl⟩
  · exact congrArg Except.ok same
  · exact congrArg Except.ok same
  · rfl
  · rfl

theorem typeIn_eq (constant : expr.IsConstant value dataType) {computed : DataType}
    (typed : expr.typeIn schema = some computed) : computed = dataType := by
  have casts {known : Bool} (found : (if known then some dataType else none) = some computed) :
      computed = dataType := by
    cases known <;> cases found
    rfl
  rcases constant.forms with ⟨rfl | ⟨name, rfl⟩, same⟩ | rfl | ⟨name, rfl⟩
  · exact (Option.some.inj typed).symm.trans same
  · exact (Option.some.inj typed).symm.trans same
  · exact casts typed
  · exact casts typed

theorem castable (constant : expr.IsConstant value dataType) {computed : DataType}
    (typed : expr.typeIn schema = some computed) (unnamed : computed.isNamed = false) :
    ArrowKernels.canCast F .null computed = true := by
  obtain rfl := constant.typeIn_eq typed
  have missing : value = .null := by
    by_contra known
    rw [← Value.ownType_of_hasType constant.typed constant.named known] at unnamed
    cases value <;> cases unnamed
  subst missing
  have casts {known : Bool} (found : (if known then some computed else none) = some computed) :
      known = true := by
    cases known <;> cases found
    rfl
  rcases constant.forms with ⟨_, rfl⟩ | rfl | ⟨name, rfl⟩
  · cases unnamed
  · exact casts typed
  · exact casts typed

theorem valueIn_eq (restores : ArrowKernels.Restores F) (constant : expr.IsConstant value dataType)
    (row : List (Value F)) : expr.valueIn schema row = some value := by
  have restored := restores.restore dataType value constant.typed constant.named constant.stored
  have kept (same : value.scalar.dataType = dataType) : value.scalar.toValue = value := by
    rwa [same, restores.self] at restored
    exact same ▸ value.scalar.hasType_toValue
  rcases constant.forms with ⟨rfl | ⟨name, rfl⟩, same⟩ | rfl | ⟨name, rfl⟩
  · exact congrArg some (kept same)
  · exact congrArg some (kept same)
  · exact congrArg some restored
  · exact congrArg some restored

theorem isNullExpression_iff (constant : expr.IsConstant value dataType) :
    expr.isNullExpression = true ↔ value = .null := by
  rw [← Value.scalar_eq_null constant.named]
  have literal : (Expr.literal value.scalar).isNullExpression = true ↔ value.scalar = .null := by
    cases value.scalar <;> simp [isNullExpression]
  rcases constant.forms with ⟨rfl | ⟨name, rfl⟩, same⟩ | rfl | ⟨name, rfl⟩
  · exact literal
  · rw [← literal]
    cases value.scalar <;> rfl
  · exact literal
  · exact literal

theorem booleanLiteral_iff (constant : expr.IsConstant value dataType) {known : Bool} :
    expr.booleanLiteral = some known ↔ value = .boolean known := by
  rw [← Value.scalar_eq_boolean]
  have literal : (Expr.literal value.scalar).booleanLiteral = some known ↔ value.scalar = .boolean known := by
    cases value.scalar <;> simp [booleanLiteral, unalias]
  -- A cast is no Boolean literal, and a Boolean value needs none.
  have uncast (cast : expr.unalias = .cast (.literal value.scalar) dataType) :
      value.scalar ≠ .boolean known := by
    intro same
    have found := constant.literal
    have boolean : dataType = .boolean := by
      have typed := constant.typed
      rw [Value.scalar_eq_boolean.mp same] at typed
      cases dataType <;> first | rfl | cases typed
    rw [typedLiteral, same, boolean] at found
    rw [found] at cast
    cases cast
  rcases id constant.forms with ⟨rfl | ⟨name, rfl⟩, same⟩ | rfl | ⟨name, rfl⟩
  · exact literal
  · exact literal
  · exact iff_of_false nofun (uncast rfl)
  · exact iff_of_false nofun (uncast rfl)

end IsConstant

variable {expr : Expr F}

theorem Reflects.isNullExpression_iff {known : Option (Value F)} (reflects : expr.Reflects known) :
    expr.isNullExpression = true ↔ known = some .null := by
  cases known with
  | none => simp [reflects.nullable]
  | some value =>
    obtain ⟨dataType, constant⟩ := reflects
    rw [constant.isNullExpression_iff, Option.some.injEq]

theorem Reflects.booleanLiteral_iff {known : Option (Value F)} (reflects : expr.Reflects known)
    {value : Bool} : expr.booleanLiteral = some value ↔ known = some (.boolean value) := by
  cases known with
  | none => simp [reflects.undecided]
  | some found =>
    obtain ⟨dataType, constant⟩ := reflects
    rw [constant.booleanLiteral_iff, Option.some.injEq]

inductive Rewrites (op : Operator) (leftKnown rightKnown : Option (Value F)) (left right : Expr F)
    (outputType : DataType) : Expr F → Prop
  | null (other : op.isLogical = false) (found : leftKnown = some .null ∨ rightKnown = some .null) :
    Rewrites op leftKnown rightKnown left right outputType (typedLiteral .null outputType)
  | right (logical : op.isLogical = true) (found : leftKnown = some (.boolean (op == .and))) :
    Rewrites op leftKnown rightKnown left right outputType right
  | left (logical : op.isLogical = true) (other : leftKnown ≠ some (.boolean (op == .and)))
    (found : rightKnown = some (.boolean (op == .and))) :
    Rewrites op leftKnown rightKnown left right outputType left
  | decided (logical : op.isLogical = true) (leftOther : leftKnown ≠ some (.boolean (op == .and)))
    (rightOther : rightKnown ≠ some (.boolean (op == .and)))
    (found : leftKnown = some (.boolean (op == .or)) ∨ rightKnown = some (.boolean (op == .or))) :
    Rewrites op leftKnown rightKnown left right outputType (.literal (.boolean (op == .or)))
  | kept (typed : op.isLogical = false → leftKnown ≠ some .null ∧ rightKnown ≠ some .null)
    (open_ : op.isLogical = true → ∀ known, leftKnown ≠ some (.boolean known) ∧ rightKnown ≠ some (.boolean known)) :
    Rewrites op leftKnown rightKnown left right outputType (.binary left op right)

variable {op : Operator} {left right : Expr F}

theorem simplifyBinary_rewrites {leftKnown rightKnown : Option (Value F)}
    (leftReflects : left.Reflects leftKnown) (rightReflects : right.Reflects rightKnown)
    (outputType : DataType) :
    Rewrites op leftKnown rightKnown left right outputType (simplifyBinary left op right outputType) := by
  have leftIff (known : Bool) : left.booleanLiteral = some known ↔ leftKnown = some (.boolean known) :=
    leftReflects.booleanLiteral_iff
  have rightIff (known : Bool) : right.booleanLiteral = some known ↔ rightKnown = some (.boolean known) :=
    rightReflects.booleanLiteral_iff
  cases logical : op.isLogical with
  | true =>
    rw [simplifyBinary_logical logical]
    simp only [leftIff, rightIff]
    split
    next found => exact .right logical found
    next leftOther =>
      split
      next found => exact .left logical leftOther found
      next rightOther =>
        split
        next found => exact .decided logical leftOther rightOther found
        next undecided =>
          refine .kept (fun never => absurd (never.symm.trans logical) Bool.false_ne_true) fun _ known => ?_
          have ⟨leftOpen, rightOpen⟩ := not_or.mp undecided
          cases known <;> cases op <;> first | exact ⟨leftOther, rightOther⟩ | exact ⟨leftOpen, rightOpen⟩ | cases logical
  | false =>
    simp only [simplifyBinary_other logical, Bool.or_eq_true, leftReflects.isNullExpression_iff,
      rightReflects.isNullExpression_iff]
    split
    next found => exact .null logical found
    next typed =>
      exact .kept (fun _ => not_or.mp typed) fun never => absurd (logical.symm.trans never) Bool.false_ne_true

theorem evaluate_unit {array : ArrayRef F} :
    evaluate expr unitBatch = .ok array ↔ expr.typeIn { fields := [] } = some array.dataType ∧
      ∃ value, expr.valueIn { fields := [] } [] = some value ∧ array.values = [value] := by
  rw [evaluate_eq_ok]
  change _ ∧ List.Forall₂ _ [[]] array.values ↔ _
  refine and_congr_right fun _ => ?_
  simp only [List.forall₂_cons_left_iff, List.forall₂_nil_left_iff]
  exact ⟨fun ⟨value, _, found, rfl, same⟩ => ⟨value, found, same⟩,
    fun ⟨value, found, same⟩ => ⟨value, [], found, rfl, same⟩⟩

variable {result : Expr F} {schema : Schema}

theorem simplifyNode_ok :
    expr.simplifyNode schema = .ok result ↔ ∃ outputType, expr.dataType schema = .ok outputType ∧
      (expr.folds ∧ (∃ dataType value, expr.typeIn { fields := [] } = some dataType ∧
          expr.valueIn { fields := [] } [] = some value ∧ value.isNamed = true ∧
          result = typedLiteral value.scalar dataType) ∨
        ¬expr.folds ∧ result = expr.rewrite outputType) := by
  rw [simplifyNode, bind_ok]
  refine exists_congr fun outputType => and_congr_right fun _ => ?_
  by_cases folds : expr.folds
  · simp only [folds, if_true, bind_ok, lift_ok, evaluate_unit, expect_ok, Value.valueAt_ok,
      pure_eq_ok, true_and, not_true_eq_false, false_and, or_false]
    constructor
    · rintro ⟨array, ⟨typed, value, found, listed⟩, first, here, scalar, ⟨named, rfl⟩, rfl⟩
      rw [listed] at here
      cases here
      exact ⟨_, _, typed, found, named, rfl⟩
    · rintro ⟨dataType, value, typed, found, named, rfl⟩
      have admitted : ({ fields := [] } : Schema).admits ([] : List (Value F)) := .nil
      have known : ∀ slot ∈ [value], slot.hasType dataType = true := by
        simpa using hasType_valueIn admitted typed found
      exact ⟨⟨dataType, [value], known⟩, ⟨typed, value, found, rfl⟩, value, rfl, _, ⟨named, rfl⟩, rfl⟩
  · simp only [folds, if_false, pure_eq_ok, false_and, not_false_eq_true, true_and, false_or]
    exact eq_comm

variable {value : Value F} {dataType : DataType}

theorem typeIn_typedLiteral (supports : ArrowKernels.Supports F) (typed : value.hasType dataType = true)
    (named : value.isNamed = true)
    (castable : dataType.isNamed = false → ArrowKernels.canCast F .null dataType = true) :
    (typedLiteral value.scalar dataType).typeIn schema = some dataType := by
  unfold typedLiteral
  split
  next same => exact congrArg some same
  next different =>
    refine if_pos ?_
    cases value with
    | null =>
      cases known : dataType.isNamed with
      | true => exact supports.cast_null dataType (DataType.isNamed_iff.mp known)
      | false => exact castable known
    | int32 number | uint32 number | float32 number =>
      cases dataType <;> cases typed
      exact supports.cast_numeric _ _ rfl rfl
    | other encoded => cases named
    | _ => cases dataType <;> cases typed; exact absurd rfl different

theorem typedLiteral_isConstant (typed : value.hasType dataType = true) (named : value.isNamed = true)
    (stored : value.Stored) : (typedLiteral value.scalar dataType).IsConstant value dataType := by
  refine ⟨?_, typed, named, stored⟩
  unfold typedLiteral
  split <;> rfl

variable {leftType rightType : DataType}

theorem stored_result (restores : ArrowKernels.Restores F) {left right : Value F}
    (found : op.result leftType rightType left right = some value) : value.Stored := by
  have applied {dataType : DataType} {left right value : Value F}
      (found : op.apply dataType left right = .ok value) : value.Stored := by
    cases value with
    | float32 number =>
      unfold Operator.apply at found
      split at found
      · unfold Operator.numeric at found
        split at found
        case h_7 =>
          obtain rfl := Value.float32.inj (Except.ok.inj found)
          exact restores.narrow _
        case h_3 | h_4 | h_5 | h_6 | h_9 =>
          obtain ⟨_, _, other⟩ := map_eq_ok.mp found
          cases other
        all_goals cases found
      split at found
      · cases decided : op.kleene left.toBool right.toBool <;> rw [decided] at found <;> cases found
      · split at found <;> cases found
    | _ => trivial
  unfold Operator.result at found
  split at found
  · cases found
    trivial
  split at found
  · exact applied (Operator.toOption_eq_some.mp found)
  · obtain ⟨target, _, rest⟩ := Option.bind_eq_some_iff.mp found
    exact applied (Operator.toOption_eq_some.mp rest)

theorem Varying.not_folds (varying : expr.Varying) (typed : expr.typeIn { fields := [] } = some dataType) :
    ¬expr.folds := by
  intro folds
  rw [varying.unknown folds] at typed
  cases typed

theorem Varying.aliased {expr : Expr F} (varying : expr.Varying) (name : String) :
    (Expr.aliased expr name).Varying := by
  obtain ⟨unknown, nullable, undecided⟩ := varying
  constructor
  · intro folds
    cases expr with
    | aliased inner other => rfl
    | _ => exact unknown folds
  · cases expr with
    | literal value => cases value <;> first | rfl | exact nullable
    | cast inner target => exact nullable
    | _ => rfl
  · cases expr with
    | aliased inner other => rfl
    | _ => exact undecided

theorem typeIn_binary : (Expr.binary left op right).typeIn schema = some dataType ↔ ∃ leftType rightType,
      left.typeIn schema = some leftType ∧ right.typeIn schema = some rightType ∧
      op.resultType F leftType rightType = some dataType := by
  simp only [typeIn, Option.bind_eq_bind, Option.bind_eq_some_iff]
  constructor
  · rintro ⟨leftType, first, rightType, second, found⟩
    exact ⟨leftType, rightType, first, second, found⟩
  · rintro ⟨leftType, rightType, first, second, found⟩
    exact ⟨leftType, first, rightType, second, found⟩

theorem valueIn_binary {row : List (Value F)} (leftTyped : left.typeIn schema = some leftType)
    (rightTyped : right.typeIn schema = some rightType) :
    (Expr.binary left op right).valueIn schema row = some value ↔ ∃ leftValue rightValue,
      left.valueIn schema row = some leftValue ∧ right.valueIn schema row = some rightValue ∧
      op.result leftType rightType leftValue rightValue = some value := by
  simp only [valueIn, leftTyped, rightTyped, Option.bind_eq_bind, Option.bind_some, Option.bind_eq_some_iff]
  constructor
  · rintro ⟨leftValue, first, rightValue, second, found⟩
    exact ⟨leftValue, rightValue, first, second, found⟩
  · rintro ⟨leftValue, rightValue, first, second, found⟩
    exact ⟨leftValue, first, rightValue, second, found⟩

theorem constant_of_node (done : expr.simplifyNode schema = .ok result) (folds : expr.folds) :
    ∃ dataType value, expr.typeIn { fields := [] } = some dataType ∧
      expr.valueIn { fields := [] } [] = some value ∧
      (value.Stored → result.IsConstant value dataType ∧ result.unalias = result) := by
  obtain ⟨outputType, _, ⟨_, dataType, value, typed, found, named, rfl⟩ | ⟨open_, _⟩⟩ := simplifyNode_ok.mp done
  · have admitted : ({ fields := [] } : Schema).admits ([] : List (Value F)) := .nil
    refine ⟨dataType, value, typed, found, fun stored => ?_⟩
    have constant := typedLiteral_isConstant (hasType_valueIn admitted typed found) named stored
    exact ⟨constant, constant.literal⟩
  · exact absurd folds open_

theorem binary_known (restores : ArrowKernels.Restores F) {leftValue rightValue : Value F}
    (leftConstant : left.IsConstant leftValue leftType)
    (rightConstant : right.IsConstant rightValue rightType)
    (done : (Expr.binary left op right).simplifyNode schema = .ok result) :
    ∃ dataType value, op.resultType F leftType rightType = some dataType ∧
      op.result leftValue.ownType rightValue.ownType leftValue rightValue = some value ∧
      result.IsConstant value dataType ∧ result.unalias = result := by
  obtain ⟨dataType, value, typed, found, constant⟩ :=
    constant_of_node done (binary_folds.mpr ⟨leftConstant.folds, rightConstant.folds⟩)
  obtain ⟨leftComputed, rightComputed, leftTyped, rightTyped, known⟩ := typeIn_binary.mp typed
  obtain ⟨_, _, leftFound, rightFound, applied⟩ := (valueIn_binary leftTyped rightTyped).mp found
  obtain rfl := leftConstant.typeIn_eq leftTyped
  obtain rfl := rightConstant.typeIn_eq rightTyped
  obtain rfl := Option.some.inj ((leftConstant.valueIn_eq restores []).symm.trans leftFound)
  obtain rfl := Option.some.inj ((rightConstant.valueIn_eq restores []).symm.trans rightFound)
  refine ⟨dataType, value, known, ?_, constant (stored_result restores applied)⟩
  rw [Operator.result_ownType restores.toKeepsValues leftConstant.typed rightConstant.typed
    leftConstant.named rightConstant.named known, applied]

theorem binary_open {leftKnown rightKnown : Option (Value F)} (leftReflects : left.Reflects leftKnown)
    (rightReflects : right.Reflects rightKnown) (open_ : leftKnown = none ∨ rightKnown = none)
    (done : (Expr.binary left op right).simplifyNode schema = .ok result) :
    ∃ outputType, (Expr.binary left op right).dataType schema = .ok outputType ∧
      ¬(Expr.binary left op right).folds ∧
      Rewrites op leftKnown rightKnown left right outputType result := by
  obtain ⟨outputType, inferred, ⟨folds, dataType, value, typed, _⟩ | ⟨varies, rfl⟩⟩ := simplifyNode_ok.mp done
  · -- The unknown operand has columns, or the evaluation would have failed.
    obtain ⟨leftFolds, rightFolds⟩ := binary_folds.mp folds
    obtain ⟨leftType, rightType, leftTyped, rightTyped, _⟩ := typeIn_binary.mp typed
    rcases open_ with rfl | rfl
    · exact absurd leftFolds (Varying.not_folds leftReflects leftTyped)
    · exact absurd rightFolds (Varying.not_folds rightReflects rightTyped)
  · exact ⟨outputType, inferred, varies, simplifyBinary_rewrites leftReflects rightReflects outputType⟩

theorem simplify_reflects (restores : ArrowKernels.Restores F) (done : expr.simplify schema = .ok result) :
    result.Reflects expr.constant ∧
      (expr.unalias = expr → expr.constant ≠ none → result.unalias = result) := by
  induction expr generalizing result with
  | column name =>
    obtain ⟨outputType, _, ⟨folds, _⟩ | ⟨open_, rfl⟩⟩ := simplifyNode_ok.mp done
    · exact absurd folds.1 (Finset.singleton_ne_empty _)
    · exact ⟨⟨fun folds => absurd folds open_, rfl, rfl⟩, fun _ _ => rfl⟩
  | literal value =>
    obtain ⟨dataType, found, typed, read, constant⟩ := constant_of_node done ⟨rfl, rfl⟩
    cases read
    obtain ⟨constant, flat⟩ := constant (by cases value <;> trivial)
    exact ⟨⟨_, constant⟩, fun _ _ => flat⟩
  | isNull inner negated ih =>
    obtain ⟨simplified, inside, done⟩ := bind_ok.mp done
    have reflects := (ih inside).1
    rw [constant]
    cases known : inner.constant with
    | some value =>
      obtain ⟨innerType, constant⟩ := known ▸ reflects
      obtain ⟨dataType, found, typed, read, known⟩ := constant_of_node done constant.folds
      obtain ⟨old, here, rfl⟩ := Option.map_eq_some_iff.mp read
      obtain rfl := Option.some.inj ((constant.valueIn_eq restores []).symm.trans here)
      obtain ⟨known, flat⟩ := known trivial
      exact ⟨⟨_, known⟩, fun _ _ => flat⟩
    | none =>
      rw [known] at reflects
      obtain ⟨outputType, _, ⟨folds, _, _, typed, _⟩ | ⟨open_, rfl⟩⟩ := simplifyNode_ok.mp done
      · obtain ⟨_, typed, _⟩ := Option.map_eq_some_iff.mp typed
        exact absurd (show simplified.folds from folds) (Varying.not_folds reflects typed)
      · exact ⟨⟨fun folds => absurd folds open_, rfl, rfl⟩, fun _ _ => rfl⟩
  | cast inner target ih =>
    obtain ⟨simplified, inside, done⟩ := bind_ok.mp done
    have reflects := (ih inside).1
    rw [constant]
    cases known : inner.constant with
    | some value =>
      obtain ⟨innerType, constant⟩ := known ▸ reflects
      obtain ⟨dataType, found, typed, read, known⟩ := constant_of_node done constant.folds
      obtain ⟨source, innerTyped, _⟩ := Option.bind_eq_some_iff.mp typed
      obtain rfl := constant.typeIn_eq innerTyped
      have same : found = ArrowKernels.castValue value.ownType target value := by
        simp only [valueIn, innerTyped, constant.valueIn_eq restores] at read
        rw [← Option.some.inj read]
        by_cases missing : value = .null
        · rw [missing, restores.null, restores.null]
        · rw [Value.ownType_of_hasType constant.typed constant.named missing]
      obtain ⟨known, flat⟩ := known (same ▸ restores.stored _ _ _)
      exact ⟨⟨_, same ▸ known⟩, fun _ _ => flat⟩
    | none =>
      rw [known] at reflects
      obtain ⟨outputType, _, ⟨folds, _, _, typed, _⟩ | ⟨open_, rfl⟩⟩ := simplifyNode_ok.mp done
      · obtain ⟨_, typed, _⟩ := Option.bind_eq_some_iff.mp typed
        exact absurd (show simplified.folds from folds) (Varying.not_folds reflects typed)
      · exact ⟨⟨fun folds => absurd folds open_, reflects.nullable, rfl⟩, fun _ _ => rfl⟩
  | binary left op right leftIh rightIh =>
    obtain ⟨simpleLeft, leftInside, done⟩ := bind_ok.mp done
    obtain ⟨simpleRight, rightInside, done⟩ := bind_ok.mp done
    have leftReflects := (leftIh leftInside).1
    have rightReflects := (rightIh rightInside).1
    rw [constant]
    by_cases open_ : left.constant = none ∨ right.constant = none
    · obtain ⟨outputType, _, varies, rewrites⟩ := binary_open leftReflects rightReflects open_ done
      cases rewrites with
      | null other found =>
        rw [Operator.folded_null open_ other found]
        have constant : (typedLiteral (.null : ScalarValue F) outputType).IsConstant .null outputType :=
          typedLiteral_isConstant (Value.hasType_null outputType) rfl trivial
        exact ⟨⟨_, constant⟩, fun _ _ => constant.literal⟩
      | right logical found =>
        have missing : right.constant = none := open_.resolve_left (by simp [found])
        rw [Operator.folded_neutral logical (.inl ⟨found, missing⟩)]
        exact ⟨missing ▸ rightReflects, fun _ known => absurd rfl known⟩
      | left logical other found =>
        have missing : left.constant = none := open_.resolve_right (by simp [found])
        rw [Operator.folded_neutral logical (.inr ⟨missing, found⟩)]
        exact ⟨missing ▸ leftReflects, fun _ known => absurd rfl known⟩
      | decided logical leftOther rightOther found =>
        rw [Operator.folded_decided open_ logical found]
        exact ⟨⟨.boolean, rfl, rfl, rfl, trivial⟩, fun _ _ => rfl⟩
      | kept typed undecided =>
        rw [Operator.folded_none open_ typed fun logical => undecided logical _]
        exact ⟨⟨fun folds => absurd folds varies, rfl, rfl⟩, fun _ _ => rfl⟩
    · obtain ⟨leftFound, rightFound⟩ := not_or.mp open_
      obtain ⟨leftValue, leftKnown⟩ := Option.ne_none_iff_exists'.mp leftFound
      obtain ⟨rightValue, rightKnown⟩ := Option.ne_none_iff_exists'.mp rightFound
      rw [leftKnown] at leftReflects
      rw [rightKnown] at rightReflects
      obtain ⟨leftType, leftConstant⟩ := leftReflects
      obtain ⟨rightType, rightConstant⟩ := rightReflects
      obtain ⟨dataType, value, _, applied, constant, flat⟩ :=
        binary_known restores leftConstant rightConstant done
      rw [leftKnown, rightKnown, Operator.folded, applied]
      exact ⟨⟨dataType, constant⟩, fun _ _ => flat⟩
  | aliased inner name ih =>
    obtain ⟨simplified, inside, done⟩ := bind_ok.mp done
    cases done
    obtain ⟨reflects, flat⟩ := ih inside
    refine ⟨?_, fun plain => by cases plain⟩
    by_cases nested : ∃ deeper other, inner = .aliased deeper other
    · obtain ⟨deeper, other, rfl⟩ := nested
      obtain ⟨simple, _, done⟩ := bind_ok.mp inside
      cases done
      exact ⟨fun _ => rfl, rfl, rfl⟩
    have plain : inner.unalias = inner := by
      cases inner with
      | aliased deeper other => exact absurd ⟨deeper, other, rfl⟩ nested
      | _ => rfl
    have same : (Expr.aliased inner name).constant = inner.constant := by
      cases inner with
      | aliased deeper other => exact absurd ⟨deeper, other, rfl⟩ nested
      | _ => rfl
    rw [same]
    cases known : inner.constant with
    | none =>
      rw [known] at reflects
      exact Varying.aliased reflects name
    | some value =>
      obtain ⟨dataType, constant⟩ := known ▸ reflects
      have literal := flat plain (by simp [known])
      exact ⟨dataType, literal ▸ constant.literal, constant.typed, constant.named, constant.stored⟩
  | aggregate function inner distinct ih =>
    obtain ⟨simplified, inside, done⟩ := bind_ok.mp done
    cases done
    exact ⟨⟨fun folds => Bool.noConfusion folds.2, rfl, rfl⟩, fun _ _ => rfl⟩
  | wildcard =>
    cases done
    exact ⟨⟨fun _ => rfl, rfl, rfl⟩, fun _ _ => rfl⟩

theorem simplify_binary (restores : ArrowKernels.Restores F)
    (done : (Expr.binary left op right).simplify schema = .ok result) :
    ∃ simpleLeft simpleRight outputType, left.simplify schema = .ok simpleLeft ∧
      right.simplify schema = .ok simpleRight ∧
      (Expr.binary simpleLeft op simpleRight).dataType schema = .ok outputType ∧
      ((∃ leftValue rightValue value leftType rightType dataType, left.constant = some leftValue ∧
          right.constant = some rightValue ∧ (Expr.binary left op right).constant = some value ∧
          simpleLeft.IsConstant leftValue leftType ∧ simpleRight.IsConstant rightValue rightType ∧
          op.resultType F leftType rightType = some dataType ∧ result.IsConstant value dataType ∧
          result.unalias = result) ∨
        (left.constant = none ∨ right.constant = none) ∧
          Rewrites op left.constant right.constant simpleLeft simpleRight outputType result) := by
  obtain ⟨simpleLeft, leftInside, done⟩ := bind_ok.mp done
  obtain ⟨simpleRight, rightInside, done⟩ := bind_ok.mp done
  obtain ⟨outputType, inferred, _⟩ := simplifyNode_ok.mp done
  have leftReflects := (simplify_reflects restores leftInside).1
  have rightReflects := (simplify_reflects restores rightInside).1
  refine ⟨simpleLeft, simpleRight, outputType, leftInside, rightInside, inferred, ?_⟩
  by_cases open_ : left.constant = none ∨ right.constant = none
  · obtain ⟨_, same, _, rewrites⟩ := binary_open leftReflects rightReflects open_ done
    obtain rfl := Except.ok.inj (inferred.symm.trans same)
    exact .inr ⟨open_, rewrites⟩
  · obtain ⟨leftFound, rightFound⟩ := not_or.mp open_
    obtain ⟨leftValue, leftKnown⟩ := Option.ne_none_iff_exists'.mp leftFound
    obtain ⟨rightValue, rightKnown⟩ := Option.ne_none_iff_exists'.mp rightFound
    rw [leftKnown] at leftReflects
    rw [rightKnown] at rightReflects
    obtain ⟨leftType, leftConstant⟩ := leftReflects
    obtain ⟨rightType, rightConstant⟩ := rightReflects
    obtain ⟨dataType, value, known, applied, constant, flat⟩ :=
      binary_known restores leftConstant rightConstant done
    refine .inl ⟨leftValue, rightValue, value, leftType, rightType, dataType, leftKnown, rightKnown, ?_,
      leftConstant, rightConstant, known, constant, flat⟩
    rw [Expr.constant, leftKnown, rightKnown]
    exact applied

end Expr

theorem exact_restores : ArrowKernels.Restores ℚ where
  toKeepsValues := exact_keepsValues
  restore dataType value typed named _ := by
    cases value with
    | null => exact exact_keepsValues.null .null dataType
    | other encoded => cases named
    | int32 number =>
      cases dataType <;> cases typed
      exact congrArg (Option.elim · _ _) (Signed.tryFrom_value number)
    | uint32 number =>
      cases dataType <;> cases typed
      have fits : (if (number.val : Int) < 0 then none else Word.tryFrom (number.val : Int).toNat) = some number := by
        rw [if_neg (by omega), Int.toNat_natCast]
        exact Word.tryFrom_eq_some.mpr rfl
      exact congrArg (Option.elim · _ _) fits
    | float32 number =>
      cases dataType <;> cases typed
      rfl
    | boolean _ | int64 _ | uint64 _ | float64 _ | utf8 _ =>
      cases dataType <;> cases typed
      exact exact_keepsValues.self _ _ rfl
  stored source target value := by
    cases found : ArrowKernels.castValue source target value <;> trivial
  narrow number := rfl

end SparkX
