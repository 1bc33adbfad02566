import SparkX.Query.Constants

set_option autoImplicit false

namespace SparkX

variable {F : Type}

-- The type inferred after simplification: the one inferred before, the 32-bit type of its family,
-- or Null in the place of Boolean.
def DataType.NarrowsTo (declared inferred : DataType) : Prop :=
  inferred.Widens declared ∨ declared = .boolean ∧ inferred = .null

variable {inferred : DataType}

namespace DataType

theorem NarrowsTo.widens {declared : DataType} (narrows : declared.NarrowsTo inferred)
    (numeric : declared = .null ∨ declared.isNumeric = true) : inferred.Widens declared := by
  rcases narrows with widens | ⟨rfl, _⟩
  · exact widens
  · cases numeric with
    | inl untyped => cases untyped
    | inr numeric => cases numeric

theorem NarrowsTo.isNumeric {declared : DataType} (narrows : declared.NarrowsTo inferred)
    (numeric : declared.isNumeric = true) : inferred.isNumeric = true := by
  rcases narrows.widens (.inr numeric) with rfl | normalized
  · exact numeric
  · cases inferred <;> first | rfl | cases normalized

theorem NarrowsTo.booleanOrNull {declared : DataType} (narrows : declared.NarrowsTo inferred)
    (known : declared.isBooleanOrNull = true) : DataType.boolean.NarrowsTo inferred := by
  rcases narrows with (rfl | normalized) | ⟨rfl, rfl⟩
  · rcases isBooleanOrNull_iff.mp known with rfl | rfl
    · exact .inl (.refl _)
    · exact .inr ⟨rfl, rfl⟩
  · cases inferred <;> cases normalized <;> cases known
  · exact .inr ⟨rfl, rfl⟩

end DataType

variable {op : Operator}

theorem Operator.operandType_narrows {left right leftInferred rightInferred declared : DataType}
    (leftNarrows : left.NarrowsTo leftInferred) (rightNarrows : right.NarrowsTo rightInferred)
    (expected : op.operandType left right = .ok declared)
    (found : op.operandType leftInferred rightInferred = .ok inferred) : inferred = declared := by
  rcases operandType_cases expected with ⟨other, rfl⟩ | ⟨arithmetic, common⟩ <;>
    rcases operandType_cases found with ⟨here, rfl⟩ | ⟨here, target⟩
  · rfl
  · cases other.symm.trans here
  · cases here.symm.trans arithmetic
  · have ⟨first, second, _⟩ := DataType.commonNumericType_operands common
    rw [DataType.commonNumericType_left (leftNarrows.widens first),
      DataType.commonNumericType_right (rightNarrows.widens second), common] at target
    exact (Option.some.inj target).symm

variable {function : AggregateFunction}

namespace AggregateFunction

variable {input output : DataType}

theorem argumentType_sum (sums : function = .sum ∨ function = .avg) :
    function.argumentType input = .ok output ↔ input.isNumeric = true ∧ output = .float64 := by
  cases numeric : input.isNumeric with
  | false => rcases sums with rfl | rfl <;> simp [argumentType, numeric]
  | true =>
    rcases sums with rfl | rfl <;>
      · simp only [argumentType, numeric, if_true, Except.ok.injEq, true_and]
        exact eq_comm

theorem argumentType_sumUInt64 :
    AggregateFunction.sumUInt64.argumentType input = .ok output ↔ input = .uint64 ∧ output = .uint64 := by
  by_cases unsigned : input = .uint64
  · simp only [argumentType, unsigned, if_true, Except.ok.injEq, true_and]
    exact eq_comm
  · simp [argumentType, unsigned]

theorem argumentType_extreme (extreme : function = .min ∨ function = .max) :
    function.argumentType input = .ok output ↔ output = input := by
  rcases extreme with rfl | rfl <;> simp [argumentType, eq_comm]

end AggregateFunction

namespace Expr

theorem not_aliased_of_flat {result : Expr F} (flat : result.unalias = result) : ¬∃ inner name, result = .aliased inner name := by
  rintro ⟨inner, name, rfl⟩
  have size := congrArg sizeOf flat
  simp only [unalias, aliased.sizeOf_spec] at size
  omega

theorem typedLiteral_flat (value : ScalarValue F) (dataType : DataType) :
    (typedLiteral value dataType).unalias = typedLiteral value dataType := by
  unfold typedLiteral
  split <;> rfl

variable {schema : Schema} {dataType : DataType}

theorem dataType_binary {left right : Expr F} :
    (Expr.binary left op right).dataType schema = .ok dataType ↔ ∃ leftType rightType,
      left.dataType schema = .ok leftType ∧ right.dataType schema = .ok rightType ∧
      op.operandType leftType rightType = .ok dataType := by
  simp only [Expr.dataType, bind_ok, lift_ok]
  constructor
  · rintro ⟨leftType, first, rightType, second, found⟩
    exact ⟨leftType, rightType, first, second, found⟩
  · rintro ⟨leftType, rightType, first, second, found⟩
    exact ⟨leftType, first, rightType, second, found⟩

theorem operandType_logical (logical : op.isLogical = true) {left right declared : DataType}
    (expected : op.operandType left right = .ok declared) :
    left.isBooleanOrNull = true ∧ right.isBooleanOrNull = true ∧ declared = .boolean := by
  unfold Operator.operandType at expected
  rw [if_pos logical] at expected
  split at expected
  next both =>
    obtain ⟨first, second⟩ := Bool.and_eq_true_iff.mp both
    exact ⟨first, second, (Except.ok.inj expected).symm⟩
  next => cases expected

theorem dataType_aliased {expr : Expr F} {name : String} :
    (Expr.aliased expr name).dataType schema = .ok dataType ↔
      (¬∃ inner other, expr = .aliased inner other) ∧ expr.dataType schema = .ok dataType := by
  cases expr with
  | aliased inner other => exact iff_of_false nofun fun both => both.1 ⟨inner, other, rfl⟩
  | _ => exact (and_iff_right (by rintro ⟨_, _, ⟨⟩⟩)).symm

theorem dataType_aggregate (other : function ≠ .count) {expr : Expr F} {distinct : Bool} :
    (Expr.aggregate function expr distinct).dataType schema = .ok dataType ↔
      ∃ input, expr.dataType schema = .ok input ∧ function.argumentType input = .ok dataType := by
  cases function with
  | count => exact absurd rfl other
  | _ => simp only [Expr.dataType, bind_ok, lift_ok]

theorem dataType_typedLiteral (value : ScalarValue F) (dataType : DataType) (schema : Schema) :
    (typedLiteral value dataType).dataType schema = .ok dataType := by
  unfold typedLiteral
  split
  next same => exact congrArg Except.ok same
  next => rfl

end Expr

variable [ArrowKernels F]

namespace Expr

def LeavesRight (left : Expr F) (op : Operator) (right : Expr F) : Prop :=
  op.isLogical = true ∧ left.constant = some (.boolean (op == .and)) ∧ right.constant = none

def LeavesLeft (left : Expr F) (op : Operator) (right : Expr F) : Prop :=
  op.isLogical = true ∧ left.constant = none ∧ right.constant = some (.boolean (op == .and))

def Surfaces : Expr F → Prop
  | .aliased _ _ => True
  | .binary left op right => LeavesRight left op right ∧ right.Surfaces ∨ LeavesLeft left op right ∧ left.Surfaces
  | _ => False

def constantType (schema : Schema) : Expr F → Option DataType
  | .literal value => some value.dataType
  | .cast _ target => some target
  | .isNull _ _ => some .boolean
  | .aliased expr _ => expr.constantType schema
  | .binary left op right =>
    if left.constant = none ∨ right.constant = none then
      ((Expr.binary left op right).dataType schema).toOption
    else do op.resultType F (← left.constantType schema) (← right.constantType schema)
  | .column _ | .aggregate _ _ _ | .wildcard => none

-- Simplification leaves the expression with a type and, with `exact`, with the same one.
def KeepsType (schema : Schema) : Bool → Expr F → Prop
  | exact, .aliased expr _ => expr.KeepsType schema exact ∧ ¬expr.Surfaces
  | exact, .aggregate function expr _ =>
    match function with
    | .count => True
    | .sum | .avg => expr.KeepsType schema false
    | .sumUInt64 => expr.KeepsType schema true
    | .min | .max => expr.KeepsType schema exact
  | true, .binary left op right =>
    (left.constant ≠ none → right.constant ≠ none →
      (Expr.binary left op right).constantType schema = ((Expr.binary left op right).dataType schema).toOption) ∧
    (LeavesRight left op right → right.dataType schema = .ok .boolean ∧ right.KeepsType schema true) ∧
    (LeavesLeft left op right → left.dataType schema = .ok .boolean ∧ left.KeepsType schema true)
  | _, _ => True

variable {expr result : Expr F} {schema : Schema}

theorem Rewrites.leaves {left right simpleLeft simpleRight : Expr F} {outputType : DataType}
    (open_ : left.constant = none ∨ right.constant = none)
    (rewrites : Rewrites op left.constant right.constant simpleLeft simpleRight outputType result) :
    LeavesRight left op right ∧ result = simpleRight ∨ LeavesLeft left op right ∧ result = simpleLeft ∨
      (¬LeavesRight left op right ∧ ¬LeavesLeft left op right) ∧
        (result = typedLiteral .null outputType ∧ op.isLogical = false ∧ op.folded left.constant right.constant = some .null ∨
          result = .literal (.boolean (op == .or)) ∧ op.isLogical = true ∨
          result = .binary simpleLeft op simpleRight ∧ op.folded left.constant right.constant = none) := by
  cases rewrites with
  | right logical found => exact .inl ⟨⟨logical, found, open_.resolve_left (by simp [found])⟩, rfl⟩
  | left logical other found => exact .inr (.inl ⟨⟨logical, open_.resolve_right (by simp [found]), found⟩, rfl⟩)
  | null other found =>
    have neither (logical : op.isLogical = true) : False := Bool.false_ne_true (other.symm.trans logical)
    refine .inr (.inr ⟨⟨fun leaves => neither leaves.1, fun leaves => neither leaves.1⟩, .inl ⟨rfl, other, ?_⟩⟩)
    exact Operator.folded_null open_ other found
  | decided logical leftOther rightOther found =>
    exact .inr (.inr ⟨⟨fun leaves => leftOther leaves.2.1, fun leaves => rightOther leaves.2.2⟩,
      .inr (.inl ⟨rfl, logical⟩)⟩)
  | kept typed undecided =>
    refine .inr (.inr ⟨⟨fun leaves => ?_, fun leaves => ?_⟩, .inr (.inr ⟨rfl, ?_⟩)⟩)
    · exact (undecided leaves.1 _).1 leaves.2.1
    · exact (undecided leaves.1 _).2 leaves.2.2
    · exact Operator.folded_none open_ typed fun logical => undecided logical _

theorem simplifyNode_flat (done : expr.simplifyNode schema = .ok result)
    (kept : ∀ outputType, (expr.rewrite outputType).unalias = expr.rewrite outputType) :
    result.unalias = result := by
  obtain ⟨outputType, _, ⟨_, dataType, value, _, _, _, rfl⟩ | ⟨_, rfl⟩⟩ := simplifyNode_ok.mp done
  · exact typedLiteral_flat value.scalar dataType
  · exact kept outputType

theorem simplify_surfaces (restores : ArrowKernels.Restores F) (done : expr.simplify schema = .ok result) :
    (∃ inner name, result = .aliased inner name) ↔ expr.Surfaces := by
  induction expr generalizing result with
  | column name | literal value => exact iff_of_false (not_aliased_of_flat (simplifyNode_flat done fun _ => rfl)) id
  | isNull inner negated ih | cast inner target ih =>
    obtain ⟨simplified, _, done⟩ := bind_ok.mp done
    exact iff_of_false (not_aliased_of_flat (simplifyNode_flat done fun _ => rfl)) id
  | aliased inner name ih =>
    obtain ⟨simplified, _, done⟩ := bind_ok.mp done
    cases done
    exact iff_of_true ⟨simplified, name, rfl⟩ trivial
  | aggregate function inner distinct ih =>
    obtain ⟨simplified, _, done⟩ := bind_ok.mp done
    cases done
    exact iff_of_false (fun ⟨_, _, same⟩ => by cases same) id
  | wildcard =>
    cases done
    exact iff_of_false (fun ⟨_, _, same⟩ => by cases same) id
  | binary left op right leftIh rightIh =>
    obtain ⟨simpleLeft, simpleRight, outputType, leftDone, rightDone, _, known | ⟨open_, rewrites⟩⟩ :=
      simplify_binary restores done
    · obtain ⟨_, _, _, _, _, _, leftKnown, rightKnown, _, _, _, _, _, flat⟩ := known
      refine iff_of_false (not_aliased_of_flat flat) ?_
      simp [Surfaces, LeavesRight, LeavesLeft, leftKnown, rightKnown]
    · have exclusive (leavesRight : LeavesRight left op right) (leavesLeft : LeavesLeft left op right) : False := by
        cases leavesRight.2.1.symm.trans leavesLeft.2.1
      rw [Surfaces]
      rcases rewrites.leaves open_ with ⟨leaves, rfl⟩ | ⟨leaves, rfl⟩ | ⟨⟨notRight, notLeft⟩, shape⟩
      · rw [rightIh rightDone]
        exact ⟨fun surfaces => .inl ⟨leaves, surfaces⟩,
          fun surfaces => (surfaces.resolve_right fun other => exclusive leaves other.1).2⟩
      · rw [leftIh leftDone]
        exact ⟨fun surfaces => .inr ⟨leaves, surfaces⟩,
          fun surfaces => (surfaces.resolve_left fun other => exclusive other.1 leaves).2⟩
      · refine iff_of_false ?_ (not_or.mpr ⟨fun both => notRight both.1, fun both => notLeft both.1⟩)
        rcases shape with ⟨rfl, _⟩ | ⟨rfl, _⟩ | ⟨rfl, _⟩
        · exact not_aliased_of_flat (typedLiteral_flat .null outputType)
        · exact not_aliased_of_flat rfl
        · exact not_aliased_of_flat rfl

variable {declared : DataType}

theorem simplifyNode_dataType (done : expr.simplifyNode schema = .ok result)
    (kept : ∀ outputType, expr.rewrite outputType = expr) (typed : expr.dataType schema = .ok declared)
    (computed : expr.folds → ∀ dataType, expr.typeIn { fields := [] } = some dataType → dataType = declared) :
    result.dataType schema = .ok declared := by
  obtain ⟨outputType, _, ⟨folds, dataType, value, found, _, _, rfl⟩ | ⟨_, rfl⟩⟩ := simplifyNode_ok.mp done
  · rw [dataType_typedLiteral, computed folds dataType found]
  · rw [kept, typed]

def hasOwnType : Expr F → Bool
  | .column _ | .literal _ | .isNull _ _ | .cast _ _ => true
  | _ => false

theorem simplify_ownType (own : expr.hasOwnType = true) (typed : expr.dataType schema = .ok declared)
    (done : expr.simplify schema = .ok result) : result.dataType schema = .ok declared := by
  cases expr with
  | column name =>
    exact simplifyNode_dataType done (fun _ => rfl) typed fun folds => absurd folds.1 (Finset.singleton_ne_empty _)
  | literal value =>
    refine simplifyNode_dataType done (fun _ => rfl) typed fun _ dataType computed => ?_
    exact (Option.some.inj computed).symm.trans (Except.ok.inj typed)
  | isNull inner negated =>
    obtain ⟨simplified, _, done⟩ := bind_ok.mp done
    refine simplifyNode_dataType done (fun _ => rfl) typed fun _ dataType computed => ?_
    obtain ⟨_, _, boolean⟩ := Option.map_eq_some_iff.mp computed
    exact boolean.symm.trans (Except.ok.inj typed)
  | cast inner target =>
    obtain ⟨simplified, _, done⟩ := bind_ok.mp done
    refine simplifyNode_dataType done (fun _ => rfl) typed fun _ dataType computed => ?_
    obtain ⟨_, _, castable⟩ := Option.bind_eq_some_iff.mp computed
    split at castable
    · exact (Option.some.inj castable).symm.trans (Except.ok.inj typed)
    · cases castable
  | binary | aliased | aggregate | wildcard => cases own

theorem simplify_narrows (restores : ArrowKernels.Restores F) (typed : expr.dataType schema = .ok declared)
    (done : expr.simplify schema = .ok result) (found : result.dataType schema = .ok inferred) :
    declared.NarrowsTo inferred := by
  induction expr generalizing result declared inferred with
  | column | literal | isNull | cast =>
    exact .inl (.inl (Except.ok.inj ((simplify_ownType rfl typed done).symm.trans found)))
  | aliased inner name ih =>
    obtain ⟨simplified, inside, done⟩ := bind_ok.mp done
    cases done
    exact ih (dataType_aliased.mp typed).2 inside (dataType_aliased.mp found).2
  | aggregate function inner distinct ih =>
    obtain ⟨simplified, inside, done⟩ := bind_ok.mp done
    cases done
    have arguments (other : function ≠ .count) : ∃ input output, input.NarrowsTo output ∧
        function.argumentType input = .ok declared ∧ function.argumentType output = .ok inferred := by
      obtain ⟨input, inputTyped, expected⟩ := (dataType_aggregate other).mp typed
      obtain ⟨output, outputTyped, inferred⟩ := (dataType_aggregate other).mp found
      exact ⟨input, output, ih inputTyped inside outputTyped, expected, inferred⟩
    cases function with
    | count => exact .inl (.inl (Except.ok.inj (typed.symm.trans found)))
    | sum | avg =>
      obtain ⟨input, output, _, expected, inferred⟩ := arguments nofun
      obtain ⟨_, rfl⟩ := (AggregateFunction.argumentType_sum (by simp)).mp expected
      obtain ⟨_, rfl⟩ := (AggregateFunction.argumentType_sum (by simp)).mp inferred
      exact .inl (.refl _)
    | sumUInt64 =>
      obtain ⟨input, output, _, expected, inferred⟩ := arguments nofun
      obtain ⟨_, rfl⟩ := AggregateFunction.argumentType_sumUInt64.mp expected
      obtain ⟨_, rfl⟩ := AggregateFunction.argumentType_sumUInt64.mp inferred
      exact .inl (.refl _)
    | min | max =>
      obtain ⟨input, output, narrows, expected, inferred⟩ := arguments nofun
      obtain rfl := (AggregateFunction.argumentType_extreme (by simp)).mp expected
      obtain rfl := (AggregateFunction.argumentType_extreme (by simp)).mp inferred
      exact narrows
  | wildcard => cases typed
  | binary left op right leftIh rightIh =>
    obtain ⟨leftType, rightType, leftTyped, rightTyped, expected⟩ := dataType_binary.mp typed
    obtain ⟨simpleLeft, simpleRight, outputType, leftDone, rightDone, output, shape⟩ := simplify_binary restores done
    obtain ⟨leftInferred, rightInferred, leftFound, rightFound, inner⟩ := dataType_binary.mp output
    have leftNarrows := leftIh leftTyped leftDone leftFound
    have rightNarrows := rightIh rightTyped rightDone rightFound
    obtain rfl := Operator.operandType_narrows leftNarrows rightNarrows expected inner
    have same (kept : result.dataType schema = .ok outputType) : outputType.NarrowsTo inferred :=
      .inl (.inl (Except.ok.inj (kept.symm.trans found)))
    rcases shape with known | ⟨open_, rewrites⟩
    · obtain ⟨_, _, _, leftComputed, rightComputed, dataType, _, _, _, leftConstant, rightConstant, computed,
        constant, _⟩ := known
      obtain rfl := Except.ok.inj (leftConstant.dataType_eq.symm.trans leftFound)
      obtain rfl := Except.ok.inj (rightConstant.dataType_eq.symm.trans rightFound)
      obtain rfl := Except.ok.inj (constant.dataType_eq.symm.trans found)
      exact .inl (Operator.resultType_widens (.refl _) (.refl _) computed inner)
    rcases rewrites.leaves open_ with ⟨leaves, rfl⟩ | ⟨leaves, rfl⟩ | ⟨_, ⟨rfl, _⟩ | ⟨rfl, logical⟩ | ⟨rfl, _⟩⟩
    · obtain ⟨_, known, rfl⟩ := operandType_logical leaves.1 expected
      exact (rightIh rightTyped rightDone found).booleanOrNull known
    · obtain ⟨known, _, rfl⟩ := operandType_logical leaves.1 expected
      exact (leftIh leftTyped leftDone found).booleanOrNull known
    · exact same (dataType_typedLiteral .null outputType schema)
    · obtain ⟨_, _, rfl⟩ := operandType_logical logical expected
      exact same rfl
    · exact same output

theorem simplify_constantType (restores : ArrowKernels.Restores F)
    (typed : expr.dataType schema = .ok declared) (done : expr.simplify schema = .ok result)
    (known : expr.constant ≠ none) (found : result.dataType schema = .ok inferred) :
    expr.constantType schema = some inferred := by
  induction expr generalizing result declared inferred with
  | column => exact absurd rfl known
  | literal | isNull | cast =>
    have same := Except.ok.inj ((simplify_ownType rfl typed done).symm.trans found)
    exact congrArg some ((Except.ok.inj typed).trans same)
  | aliased inner name ih =>
    obtain ⟨simplified, inside, done⟩ := bind_ok.mp done
    cases done
    obtain ⟨plain, typed⟩ := dataType_aliased.mp typed
    refine ih typed inside (fun missing => known ?_) (dataType_aliased.mp found).2
    cases inner with
    | aliased deeper other => rfl
    | _ => exact missing
  | aggregate => exact absurd rfl known
  | wildcard => exact absurd rfl known
  | binary left op right leftIh rightIh =>
    obtain ⟨leftType, rightType, leftTyped, rightTyped, expected⟩ := dataType_binary.mp typed
    obtain ⟨simpleLeft, simpleRight, outputType, leftDone, rightDone, output, shape⟩ := simplify_binary restores done
    obtain ⟨leftInferred, rightInferred, leftFound, rightFound, inner⟩ := dataType_binary.mp output
    rw [constantType]
    rcases shape with constants | ⟨open_, rewrites⟩
    · obtain ⟨_, _, _, leftComputed, rightComputed, dataType, leftKnown, rightKnown, _, leftConstant,
        rightConstant, computed, constant, _⟩ := constants
      rw [if_neg (by simp [leftKnown, rightKnown]),
        leftIh leftTyped leftDone (by simp [leftKnown]) leftConstant.dataType_eq,
        rightIh rightTyped rightDone (by simp [rightKnown]) rightConstant.dataType_eq]
      rw [Except.ok.inj (found.symm.trans constant.dataType_eq), ← computed]
      rfl
    · rw [if_pos open_, typed]
      have narrows := Operator.operandType_narrows (simplify_narrows restores leftTyped leftDone leftFound)
        (simplify_narrows restores rightTyped rightDone rightFound) expected inner
      subst narrows
      refine congrArg some (Except.ok.inj (Eq.trans ?_ found))
      rcases rewrites.leaves open_ with ⟨leaves, _⟩ | ⟨leaves, _⟩ | ⟨_, ⟨rfl, _⟩ | ⟨rfl, logical⟩ | ⟨_, missing⟩⟩
      · exact absurd (Operator.folded_neutral leaves.1 (.inl leaves.2)) known
      · exact absurd (Operator.folded_neutral leaves.1 (.inr leaves.2)) known
      · exact (dataType_typedLiteral .null outputType schema).symm
      · obtain ⟨_, _, rfl⟩ := operandType_logical logical expected
        rfl
      · exact absurd missing known

theorem LeavesRight.not_leavesLeft {left right : Expr F} (leaves : LeavesRight left op right) :
    ¬LeavesLeft left op right :=
  fun other => nomatch leaves.2.1.symm.trans other.2.1

theorem survivor_boolean (restores : ArrowKernels.Restores F) (typed : expr.dataType schema = .ok declared)
    (done : expr.simplify schema = .ok result)
    (keeps : expr.KeepsType schema true ↔ result.dataType schema = .ok declared) :
    expr.dataType schema = .ok .boolean ∧ expr.KeepsType schema true ↔ result.dataType schema = .ok .boolean := by
  rw [keeps]
  constructor
  · rintro ⟨boolean, kept⟩
    rw [kept, ← typed, boolean]
  · intro boolean
    have same : declared = .boolean := by
      rcases simplify_narrows restores typed done boolean with (same | normalized) | ⟨_, untyped⟩
      · exact same
      · cases normalized
      · cases untyped
    subst same
    exact ⟨typed, boolean⟩

theorem simplify_keepsType (restores : ArrowKernels.Restores F)
    (typed : expr.dataType schema = .ok declared) (done : expr.simplify schema = .ok result) (exact : Bool) :
    expr.KeepsType schema exact ↔
      ∃ inferred, result.dataType schema = .ok inferred ∧ (exact = true → inferred = declared) := by
  induction expr generalizing result declared exact with
  | column | literal | isNull | cast =>
    refine iff_of_true ?_ ⟨declared, simplify_ownType rfl typed done, fun _ => rfl⟩
    cases exact <;> trivial
  | aliased inner name ih =>
    obtain ⟨simplified, inside, done⟩ := bind_ok.mp done
    cases done
    rw [KeepsType, ih (dataType_aliased.mp typed).2 inside, ← simplify_surfaces restores inside]
    simp only [dataType_aliased]
    constructor
    · rintro ⟨⟨inferred, found, same⟩, flat⟩
      exact ⟨inferred, ⟨flat, found⟩, same⟩
    · rintro ⟨inferred, ⟨flat, found⟩, same⟩
      exact ⟨⟨inferred, found, same⟩, flat⟩
  | aggregate function inner distinct ih =>
    obtain ⟨simplified, inside, done⟩ := bind_ok.mp done
    cases done
    have arguments (other : function ≠ .count) := (dataType_aggregate other).mp typed
    have outputs (other : function ≠ .count) {inferred : DataType} :
        (Expr.aggregate function simplified distinct).dataType schema = .ok inferred ↔ _ := dataType_aggregate other
    cases function with
    | count => exact iff_of_true trivial ⟨declared, typed, fun _ => rfl⟩
    | sum | avg =>
      obtain ⟨input, inputTyped, expected⟩ := arguments nofun
      obtain ⟨numeric, rfl⟩ := (AggregateFunction.argumentType_sum (by simp)).mp expected
      rw [KeepsType, ih inputTyped inside]
      constructor
      · rintro ⟨output, found, _⟩
        have narrowed := (simplify_narrows restores inputTyped inside found).isNumeric numeric
        exact ⟨_, (outputs nofun).mpr ⟨output, found, (AggregateFunction.argumentType_sum (by simp)).mpr
          ⟨narrowed, rfl⟩⟩, fun _ => rfl⟩
      · rintro ⟨_, found, _⟩
        obtain ⟨output, found, _⟩ := (outputs nofun).mp found
        exact ⟨output, found, nofun⟩
    | sumUInt64 =>
      obtain ⟨input, inputTyped, expected⟩ := arguments nofun
      obtain ⟨rfl, rfl⟩ := AggregateFunction.argumentType_sumUInt64.mp expected
      rw [KeepsType, ih inputTyped inside]
      constructor
      · rintro ⟨output, found, same⟩
        exact ⟨_, (outputs nofun).mpr ⟨output, found, AggregateFunction.argumentType_sumUInt64.mpr ⟨same rfl, rfl⟩⟩,
          fun _ => rfl⟩
      · rintro ⟨_, found, _⟩
        obtain ⟨output, found, inferred⟩ := (outputs nofun).mp found
        exact ⟨output, found, fun _ => (AggregateFunction.argumentType_sumUInt64.mp inferred).1⟩
    | min | max =>
      obtain ⟨input, inputTyped, expected⟩ := arguments nofun
      obtain rfl := (AggregateFunction.argumentType_extreme (by simp)).mp expected
      rw [KeepsType, ih inputTyped inside]
      refine exists_congr fun inferred => and_congr_left fun _ => ?_
      rw [outputs nofun]
      simp [AggregateFunction.argumentType_extreme]
  | wildcard => cases typed
  | binary left op right leftIh rightIh =>
    obtain ⟨leftType, rightType, leftTyped, rightTyped, expected⟩ := dataType_binary.mp typed
    obtain ⟨simpleLeft, simpleRight, outputType, leftDone, rightDone, output, shape⟩ := simplify_binary restores done
    obtain ⟨leftInferred, rightInferred, leftFound, rightFound, inner⟩ := dataType_binary.mp output
    obtain rfl := Operator.operandType_narrows (simplify_narrows restores leftTyped leftDone leftFound)
      (simplify_narrows restores rightTyped rightDone rightFound) expected inner
    cases exact with
    | false =>
      refine iff_of_true trivial (Exists.imp (fun _ found => ⟨found, nofun⟩) ?_)
      rcases shape with ⟨_, _, _, _, _, dataType, _, _, _, _, _, _, constant, _⟩ | ⟨open_, rewrites⟩
      · exact ⟨dataType, constant.dataType_eq⟩
      rcases rewrites.leaves open_ with ⟨_, rfl⟩ | ⟨_, rfl⟩ | ⟨_, ⟨rfl, _⟩ | ⟨rfl, _⟩ | ⟨rfl, _⟩⟩
      · exact ⟨rightInferred, rightFound⟩
      · exact ⟨leftInferred, leftFound⟩
      · exact ⟨outputType, dataType_typedLiteral .null outputType schema⟩
      · exact ⟨.boolean, rfl⟩
      · exact ⟨outputType, output⟩
    | true =>
      have exactly {expr : Expr F} {declared : DataType} : (∃ inferred, expr.dataType schema = .ok inferred ∧
          (true = true → inferred = declared)) ↔ expr.dataType schema = .ok declared := by simp
      rw [exactly, KeepsType]
      rcases shape with known | ⟨open_, rewrites⟩
      · obtain ⟨_, _, _, _, _, dataType, leftKnown, rightKnown, known, _, _, _, constant, _⟩ := known
        have computed := simplify_constantType restores typed done (by simp [known]) constant.dataType_eq
        rw [computed, typed, constant.dataType_eq]
        simp [LeavesRight, LeavesLeft, leftKnown, rightKnown, Except.toOption]
      have unknown : ¬(left.constant ≠ none ∧ right.constant ≠ none) := fun both => open_.elim both.1 both.2
      have keptLeft := survivor_boolean restores leftTyped leftDone ((leftIh leftTyped leftDone true).trans exactly)
      have keptRight := survivor_boolean restores rightTyped rightDone ((rightIh rightTyped rightDone true).trans exactly)
      rw [keptLeft, keptRight, ← and_imp, iff_true_intro (fun both => absurd both unknown), true_and]
      rcases rewrites.leaves open_ with ⟨leaves, rfl⟩ | ⟨leaves, rfl⟩ | ⟨⟨notRight, notLeft⟩, shape⟩
      · obtain ⟨_, _, rfl⟩ := operandType_logical leaves.1 expected
        simp [leaves, leaves.not_leavesLeft]
      · obtain ⟨_, _, rfl⟩ := operandType_logical leaves.1 expected
        have other : ¬LeavesRight left op right := fun other => other.not_leavesLeft leaves
        simp [leaves, other]
      · refine iff_of_true ⟨fun leaves => absurd leaves notRight, fun leaves => absurd leaves notLeft⟩ ?_
        rcases shape with ⟨rfl, _⟩ | ⟨rfl, logical⟩ | ⟨rfl, _⟩
        · exact dataType_typedLiteral .null outputType schema
        · obtain ⟨_, _, rfl⟩ := operandType_logical logical expected
          rfl
        · exact output

theorem simplify_keeps_type_iff (restores : ArrowKernels.Restores F) {declared : DataType}
    (typed : expr.dataType schema = .ok declared) (done : expr.simplify schema = .ok result) :
    result.dataType schema = .ok declared ↔ expr.KeepsType schema true := by
  rw [simplify_keepsType restores typed done]
  simp

end Expr

def flagSchema : Schema where
  fields := [⟨"missing", .null, true, .empty⟩, ⟨"flag", .boolean, true, .empty⟩]

theorem Expr.simplify_keeps_type_of_conjunction :
    let expr : Expr ℚ := .binary (.column "flag") .and (.literal (.boolean true))
    expr.simplify flagSchema = .ok (.column "flag") ∧
      ((Expr.column "flag" : Expr ℚ).dataType flagSchema = .ok .boolean ↔ expr.KeepsType flagSchema true) :=
  ⟨by rfl, simplify_keeps_type_iff exact_restores (by rfl) (by rfl)⟩

theorem Expr.simplify_conjunction_of_untyped :
    let expr : Expr ℚ := .binary (.column "missing") .and (.literal (.boolean true))
    expr.dataType flagSchema = .ok .boolean ∧ expr.simplify flagSchema = .ok (.column "missing") ∧
      (Expr.column "missing" : Expr ℚ).dataType flagSchema = .ok .null :=
  ⟨by rfl, by rfl, by rfl⟩

end SparkX
