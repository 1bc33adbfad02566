import SparkX.Query.Meaning
import SparkX.Storage.Pruning

set_option autoImplicit false

namespace SparkX

variable {F : Type} {width : Nat}

def Side.beyond : Side → Ordering
  | .min => .gt
  | .max => .lt

section

variable [FloatOps F]

-- A value between the bounds. A float that is not a number is not compared with them.
def ColumnBounds.Bound (side : Side) : ColumnBounds F → Value F → Prop
  | .boolean bounds, .boolean value => ∀ bound ∈ bounds.at side, compare bound value ≠ side.beyond
  | .int32 bounds, .int32 value => ∀ bound ∈ bounds.at side, compare bound.value value.value ≠ side.beyond
  | .int64 bounds, .int64 value => ∀ bound ∈ bounds.at side, compare bound.value value.value ≠ side.beyond
  | .float bounds, .float32 value | .double bounds, .float64 value =>
    ∀ bound ∈ bounds.at side, FloatOps.partialCompare bound value ≠ some side.beyond
  | .byteArray bounds, .utf8 value =>
    ∀ bound ∈ (bounds.at side).bind String.fromUTF8?, compare bound value ≠ side.beyond
  | _, _ => True

structure Statistics.Correct (statistics : Statistics F) (values : List (Value F)) : Prop where
  nulls : ∀ count, statistics.nullCount = some count → count.val = values.countP (·.isNull)
  lower : statistics.minIsExact = true → ∀ value ∈ values, statistics.bounds.Bound .min value
  upper : statistics.maxIsExact = true → ∀ value ∈ values, statistics.bounds.Bound .max value

-- The metadata is that of a row group with these rows.
structure RowGroupMetaData.Describes (rowGroup : RowGroupMetaData F width)
    (parquetColumns : List (Option (Fin width))) (contents : RecordBatch F) : Prop where
  rows : rowGroup.numRows = contents.numRows
  columns : ∀ index parquetIndex statistics, parquetColumns[index]? = some (some parquetIndex) →
    rowGroup.statistics parquetIndex = some statistics →
      statistics.Correct (contents.rows.map (·.getD index .null))

end

variable [ArrowKernels F]

theorem holds_reverse (op : Operator) (found : Ordering) :
    (reverseComparison op).holds found = op.holds found.swap := by
  cases op <;> cases found <;> rfl

theorem reverse_reverse (op : Operator) : reverseComparison (reverseComparison op) = op := by
  cases op <;> rfl

theorem isArithmetic_reverse (op : Operator) : (reverseComparison op).isArithmetic = op.isArithmetic := by
  cases op <;> rfl

theorem isLogical_reverse (op : Operator) : (reverseComparison op).isLogical = op.isLogical := by
  cases op <;> rfl

theorem swap_compare {β : Type} [LinearOrder β] (first second : β) :
    (compare first second).swap = compare second first := by
  rcases lt_trichotomy first second with less | rfl | more
  · rw [compare_lt_iff_lt.mpr less, compare_gt_iff_gt.mpr less]
    rfl
  · rw [compare_eq_iff_eq.mpr rfl]
    rfl
  · rw [compare_gt_iff_gt.mpr more, compare_lt_iff_lt.mpr more]
    rfl

theorem boundsMayMatch_sound {α β : Type} [LinearOrder β] {scalar : α → ScalarValue F} {key : α → β}
    (injective : Function.Injective scalar)
    (compares : ∀ first second,
      (scalar first).partialCompare (scalar second) = some (compare (key first) (key second)))
    {op : Operator} {dataType : DataType} {min max : Option α} {value literal : α}
    (lower : ∀ bound ∈ min, key bound ≤ key value) (upper : ∀ bound ∈ max, key value ≤ key bound)
    (refuted : boundsMayMatch op (scalar literal) dataType (min.map scalar) (max.map scalar) = false) :
    op.holds (compare (key value) (key literal)) = false := by
  cases op with
  | eq =>
    rcases Bool.and_eq_false_iff.mp refuted with low | high
    · obtain _ | bound := min
      · cases low
      have below : compare (key literal) (key bound) = .lt := by simpa [compares] using low
      have apart := (compare_lt_iff_lt.mp below).trans_le (lower bound rfl)
      simpa [Operator.holds] using apart.ne'
    · obtain _ | bound := max
      · cases high
      have above : compare (key literal) (key bound) = .gt := by simpa [compares] using high
      have apart := (upper bound rfl).trans_lt (compare_gt_iff_gt.mp above)
      simpa [Operator.holds] using apart.ne
  | notEq =>
    simp only [boundsMayMatch] at refuted
    split at refuted
    · cases refuted
    obtain _ | least := min
    · cases refuted
    obtain _ | greatest := max
    · simp at refuted
    simp only [Option.map_some, Option.any_some, Bool.not_eq_false', Bool.and_eq_true, decide_eq_true_eq]
      at refuted
    have low := lower least rfl
    have high := upper greatest rfl
    rw [injective refuted.1] at low
    rw [injective refuted.2] at high
    simp [Operator.holds, compare_eq_iff_eq.mpr (le_antisymm high low)]
  | lt =>
    obtain _ | bound := min
    · cases refuted
    have beyond : key literal ≤ key bound := by
      have tested : compare (key bound) (key literal) = .eq ∨ compare (key bound) (key literal) = .gt := by
        simpa [boundsMayMatch, compares, or_iff_not_imp_left] using refuted
      rcases tested with same | more
      · exact (compare_eq_iff_eq.mp same).ge
      · exact (compare_gt_iff_gt.mp more).le
    simpa [Operator.holds, compare_lt_iff_lt] using beyond.trans (lower bound rfl)
  | ltEq =>
    obtain _ | bound := min
    · cases refuted
    have beyond : compare (key bound) (key literal) = .gt := by simpa [boundsMayMatch, compares] using refuted
    have apart := (compare_gt_iff_gt.mp beyond).trans_le (lower bound rfl)
    simpa [Operator.holds, compare_gt_iff_gt] using apart
  | gt =>
    obtain _ | bound := max
    · cases refuted
    have beyond : key bound ≤ key literal := by
      have tested : compare (key bound) (key literal) = .eq ∨ compare (key bound) (key literal) = .lt := by
        simpa [boundsMayMatch, compares, or_iff_not_imp_left] using refuted
      rcases tested with same | less
      · exact (compare_eq_iff_eq.mp same).le
      · exact (compare_lt_iff_lt.mp less).le
    simpa [Operator.holds, compare_gt_iff_gt] using (upper bound rfl).trans beyond
  | gtEq =>
    obtain _ | bound := max
    · cases refuted
    have beyond : compare (key bound) (key literal) = .lt := by simpa [boundsMayMatch, compares] using refuted
    have apart := (upper bound rfl).trans_lt (compare_lt_iff_lt.mp beyond)
    simpa [Operator.holds, compare_lt_iff_lt] using apart
  | _ => rfl

variable {literal : ScalarValue F}

theorem boundsMayMatch_mixed {op : Operator} {dataType : DataType} {min max : Option (ScalarValue F)}
    (apart : ∀ bound, bound ∈ min ∨ bound ∈ max →
      bound.partialCompare literal = none ∧ literal.partialCompare bound = none ∧ bound ≠ literal) :
    boundsMayMatch op literal dataType min max = true := by
  have low := fun bound member => apart bound (.inl member)
  have high := fun bound member => apart bound (.inr member)
  cases op <;> cases min <;> cases max <;> simp_all [boundsMayMatch]

-- A type of columns that the bounds of their statistics order. The items of a column are read from
-- the slots of its arrays; `scalar` is how the statistics and the literals of a query have them.
structure OrderedColumn (F : Type) [ArrowKernels F] (dataType : DataType) where
  Item : Type
  Key : Type
  order : LinearOrder Key
  key : Item → Key
  read : Value F → Option Item
  scalar : Item → ScalarValue F
  bound : Side → ColumnBounds F → Option Item
  scalar_injective : Function.Injective scalar
  partialCompare_scalar : ∀ first second,
    (scalar first).partialCompare (scalar second) = some (compare (key first) (key second))
  partialCompare_other : ∀ item literal, literal ≠ .null → (∀ other, literal ≠ scalar other) →
    (scalar item).partialCompare literal = none ∧ literal.partialCompare (scalar item) = none
  read_typed : ∀ value, value.hasType dataType = true → value = .null ∨ ∃ item, read value = some item
  statistic_eq : ∀ side bounds, statistic side bounds dataType = (bound side bounds).map scalar
  bounded : ∀ side bounds value item, read value = some item → bounds.Bound side value →
    ∀ found ∈ bound side bounds, compare (key found) (key item) ≠ side.beyond
  result_slot : ∀ (op : Operator) value item literal, op.isArithmetic = false → op.isLogical = false →
    read value = some item →
      op.result dataType (scalar literal).dataType value (scalar literal).toValue =
        some (.boolean (op.holds (compare (key item) (key literal))))
  result_literal : ∀ (op : Operator) value item literal, op.isArithmetic = false → op.isLogical = false →
    read value = some item →
      op.result (scalar literal).dataType dataType (scalar literal).toValue value =
        some (.boolean (op.holds (compare (key literal) (key item))))

variable {statistics : Statistics F}

namespace OrderedColumn

variable {op : Operator} {left right : Value F}

theorem apply_comparison (dataType : DataType) (arithmetic : op.isArithmetic = false) (logical : op.isLogical = false)
    (leftPresent : left.isNull = false) (rightPresent : right.isNull = false) :
    op.apply dataType left right = .ok (.boolean (op.holds (left.compare right))) := by
  simp [Operator.apply, arithmetic, logical, leftPresent, rightPresent]

theorem result_same {dataType : DataType} (arithmetic : op.isArithmetic = false)
    (logical : op.isLogical = false) (typed : dataType ≠ .null) (leftPresent : left.isNull = false)
    (rightPresent : right.isNull = false) :
    op.result dataType dataType left right = some (.boolean (op.holds (left.compare right))) := by
  rw [Operator.result, if_neg fun both => typed both.1, if_pos rfl,
    apply_comparison _ arithmetic logical leftPresent rightPresent]
  rfl

theorem result_cast {leftType rightType target : DataType} {leftCast rightCast : Value F}
    (arithmetic : op.isArithmetic = false) (logical : op.isLogical = false)
    (targeted : op.targetType leftType rightType = some target) (typed : leftType ≠ .null)
    (different : leftType ≠ rightType) (leftCasts : ArrowKernels.castValue leftType target left = leftCast)
    (rightCasts : ArrowKernels.castValue rightType target right = rightCast)
    (leftPresent : leftCast.isNull = false) (rightPresent : rightCast.isNull = false) :
    op.result leftType rightType left right = some (.boolean (op.holds (leftCast.compare rightCast))) := by
  rw [Operator.result, if_neg fun both => typed both.1, if_neg different, targeted, Option.bind_eq_bind,
    Option.bind_some, leftCasts, rightCasts, apply_comparison _ arithmetic logical leftPresent rightPresent]
  rfl

theorem targetType_common (arithmetic : op.isArithmetic = false) {left right : DataType}
    (leftTyped : left ≠ .null) (rightTyped : right ≠ .null) :
    op.targetType left right = left.commonNumericType right := by
  unfold Operator.targetType
  rw [arithmetic, if_neg Bool.false_ne_true]
  split
  next => exact absurd rfl leftTyped
  next => exact absurd rfl rightTyped
  next => rfl

def boolean : OrderedColumn F .boolean where
  Item := Bool
  Key := Bool
  order := inferInstance
  key := id
  read := Value.toBool
  scalar := .boolean
  bound side
    | .boolean bounds => bounds.at side
    | _ => none
  scalar_injective _ _ := ScalarValue.boolean.inj
  partialCompare_scalar _ _ := rfl
  partialCompare_other item literal := by
    intro typed other
    cases literal <;> simp_all [ScalarValue.partialCompare]
  read_typed value known := by cases value <;> simp_all [Value.hasType, Value.toBool]
  statistic_eq side bounds := by cases bounds <;> rfl
  bounded side bounds value item := by
    rintro here bounded
    cases value <;> cases here
    cases bounds <;> simp_all [ColumnBounds.Bound]
  result_slot op value item literal arithmetic logical here := by
    cases value <;> cases here
    exact result_same arithmetic logical nofun rfl rfl
  result_literal op value item literal arithmetic logical here := by
    cases value <;> cases here
    exact result_same arithmetic logical nofun rfl rfl

def int64 : OrderedColumn F .int64 where
  Item := I64
  Key := Int
  order := inferInstance
  key := (·.value)
  read
    | .int64 value => some value
    | _ => none
  scalar := .int64
  bound side
    | .int64 bounds => bounds.at side
    | _ => none
  scalar_injective _ _ := ScalarValue.int64.inj
  partialCompare_scalar _ _ := rfl
  partialCompare_other item literal := by
    intro typed other
    cases literal <;> simp_all [ScalarValue.partialCompare]
  read_typed value known := by cases value <;> simp_all [Value.hasType]
  statistic_eq side bounds := by cases bounds <;> rfl
  bounded side bounds value item := by
    rintro here bounded
    cases value <;> cases here
    cases bounds <;> simp_all [ColumnBounds.Bound]
  result_slot op value item literal arithmetic logical here := by
    cases value <;> cases here
    exact result_same arithmetic logical nofun rfl rfl
  result_literal op value item literal arithmetic logical here := by
    cases value <;> cases here
    exact result_same arithmetic logical nofun rfl rfl

-- Integers of 32 bits are compared with literals of 64, to which the kernels cast them.
def int32 (keeps : ArrowKernels.KeepsValues F) : OrderedColumn F .int32 where
  Item := I64
  Key := Int
  order := inferInstance
  key := (·.value)
  read
    | .int32 value => some value.widen
    | _ => none
  scalar := .int64
  bound side
    | .int32 bounds => (bounds.at side).map Signed.widen
    | _ => none
  scalar_injective _ _ := ScalarValue.int64.inj
  partialCompare_scalar _ _ := rfl
  partialCompare_other item literal := by
    intro typed other
    cases literal <;> simp_all [ScalarValue.partialCompare]
  read_typed value known := by cases value <;> simp_all [Value.hasType]
  statistic_eq side bounds := by
    cases bounds <;> simp [statistic, Function.comp_def]
  bounded side bounds value item := by
    rintro here bounded
    cases value <;> cases here
    cases bounds <;> simp_all [ColumnBounds.Bound, Signed.widen]
  result_slot op value item literal arithmetic logical here := by
    cases value <;> cases here
    have targeted : op.targetType .int32 .int64 = some .int64 := targetType_common arithmetic nofun nofun
    exact result_cast arithmetic logical targeted nofun nofun (keeps.widen _) (keeps.self _ _ rfl) rfl rfl
  result_literal op value item literal arithmetic logical here := by
    cases value <;> cases here
    have targeted : op.targetType .int64 .int32 = some .int64 := targetType_common arithmetic nofun nofun
    exact result_cast arithmetic logical targeted nofun nofun (keeps.self _ _ rfl) (keeps.widen _) rfl rfl

def utf8 : OrderedColumn F .utf8 where
  Item := String
  Key := String
  order := inferInstance
  key := id
  read
    | .utf8 value => some value
    | _ => none
  scalar := .utf8
  bound side
    | .byteArray bounds => (bounds.at side).bind String.fromUTF8?
    | _ => none
  scalar_injective _ _ := ScalarValue.utf8.inj
  partialCompare_scalar _ _ := rfl
  partialCompare_other item literal := by
    intro typed other
    cases literal <;> simp_all [ScalarValue.partialCompare]
  read_typed value known := by cases value <;> simp_all [Value.hasType]
  statistic_eq side bounds := by cases bounds <;> rfl
  bounded side bounds value item := by
    rintro here bounded
    cases value <;> cases here
    cases bounds <;> simp_all [ColumnBounds.Bound]
  result_slot op value item literal arithmetic logical here := by
    cases value <;> cases here
    exact result_same arithmetic logical nofun rfl rfl
  result_literal op value item literal arithmetic logical here := by
    cases value <;> cases here
    exact result_same arithmetic logical nofun rfl rfl

variable {dataType : DataType} (column : OrderedColumn F dataType)

instance : LinearOrder column.Key := column.order

theorem usable_bounds {side : Side} {bounds : ColumnBounds F} {usable : Bool} :
    (if usable then statistic side bounds dataType else none) =
      (if usable then column.bound side bounds else none).map column.scalar := by
  cases usable
  · rfl
  · exact column.statistic_eq side bounds

theorem refutes {values : List (Value F)} (correct : statistics.Correct values) {value : Value F}
    (member : value ∈ values) {item : column.Item} (here : column.read value = some item)
    (present : literal ≠ .null)
    (refuted : boundsMayMatch op literal dataType (statistics.min dataType) (statistics.max dataType) = false) :
    ∃ other, literal = column.scalar other ∧
      op.holds (compare (column.key item) (column.key other)) = false := by
  unfold Statistics.min Statistics.max statisticMin statisticMax at refuted
  rw [column.usable_bounds, column.usable_bounds] at refuted
  by_cases known : ∃ other, literal = column.scalar other
  · obtain ⟨other, rfl⟩ := known
    refine ⟨other, rfl, boundsMayMatch_sound column.scalar_injective column.partialCompare_scalar
      (fun bound found => ?_) (fun bound found => ?_) refuted⟩
    · obtain ⟨exact, found⟩ := Option.ite_none_right_eq_some.mp found
      have bounded := correct.lower (Bool.and_eq_true_iff.mp exact).2 value member
      exact compare_le_iff_le.mp (column.bounded .min _ value item here bounded bound found)
    · obtain ⟨exact, found⟩ := Option.ite_none_right_eq_some.mp found
      have bounded := correct.upper (Bool.and_eq_true_iff.mp exact).2 value member
      exact compare_ge_iff_ge.mp (column.bounded .max _ value item here bounded bound found)
  · have foreign : ∀ other, literal ≠ column.scalar other := fun other same => known ⟨other, same⟩
    rw [boundsMayMatch_mixed] at refuted
    · cases refuted
    intro bound found
    obtain ⟨other, rfl⟩ : ∃ other, bound = column.scalar other := by
      rcases found with found | found
      all_goals
        obtain ⟨other, _, rfl⟩ := Option.map_eq_some_iff.mp found
        exact ⟨other, rfl⟩
    obtain ⟨first, second⟩ := column.partialCompare_other other literal present foreign
    exact ⟨first, second, (foreign other).symm⟩

end OrderedColumn

section

variable {leftType rightType : DataType} {left right : Value F}

theorem comparison_with_null (keeps : ArrowKernels.KeepsValues F) {op : Operator}
    (arithmetic : op.isArithmetic = false) (logical : op.isLogical = false)
    (missing : left = .null ∨ right = .null) :
    op.result leftType rightType left right ≠ some (.boolean true) := by
  have unknown {first second : Value F} (missing : first = .null ∨ second = .null) :
      ∀ dataType, op.apply dataType first second = .ok .null := by
    intro dataType
    unfold Operator.apply
    rw [arithmetic, if_neg Bool.false_ne_true, logical, if_neg Bool.false_ne_true]
    rcases missing with rfl | rfl
    · rfl
    · cases first <;> rfl
  unfold Operator.result
  split
  · exact nofun
  split
  · rw [unknown missing]
    exact nofun
  cases op.targetType leftType rightType with
  | none => exact nofun
  | some target =>
    rw [Option.bind_eq_bind, Option.bind_some, unknown]
    · exact nofun
    · rcases missing with rfl | rfl
      · exact .inl (keeps.null _ _)
      · exact .inr (keeps.null _ _)

theorem true_before_cast (keeps : ArrowKernels.KeepsValues F) {source target : DataType} {value : Value F}
    (typed : value.hasType source = true) (kept : target = .boolean → source = .null ∨ source = .boolean)
    (read : (ArrowKernels.castValue source target value).toBool = some true) : value.toBool = some true := by
  have boolean : target = .boolean := by
    have known := ArrowKernels.hasType_castValue source target value
    cases found : ArrowKernels.castValue source target value <;> rw [found] at read known <;> cases read
    cases target <;> first | rfl | cases known
  subst boolean
  rcases kept rfl with rfl | rfl
  · have missing : value = .null := by cases value <;> first | rfl | cases typed
    rw [missing, keeps.null] at read
    cases read
  · rwa [keeps.self _ _ typed] at read

theorem logical_operands (keeps : ArrowKernels.KeepsValues F) {op : Operator}
    (arithmetic : op.isArithmetic = false) (logical : op.isLogical = true)
    (leftTyped : left.hasType leftType = true) (rightTyped : right.hasType rightType = true)
    (found : op.result leftType rightType left right = some (.boolean true)) :
    ∃ first second : Option Bool, op.kleene first second = some true ∧
      (first = some true → left.toBool = some true) ∧ (second = some true → right.toBool = some true) := by
  have applied {dataType : DataType} {first second : Value F}
      (truth : (op.apply dataType first second).toOption = some (.boolean true)) :
      op.kleene first.toBool second.toBool = some true := by
    unfold Operator.apply at truth
    rw [arithmetic, if_neg Bool.false_ne_true, if_pos logical] at truth
    cases known : op.kleene first.toBool second.toBool <;> rw [known] at truth <;> cases truth
    rfl
  unfold Operator.result at found
  split at found
  · cases found
  split at found
  · exact ⟨_, _, applied found, id, id⟩
  next different =>
    obtain ⟨target, targeted, found⟩ := Option.bind_eq_some_iff.mp found
    have operands : target = .boolean →
        (leftType = .null ∨ leftType = .boolean) ∧ (rightType = .null ∨ rightType = .boolean) := by
      rintro rfl
      unfold Operator.targetType at targeted
      rw [arithmetic, if_neg Bool.false_ne_true] at targeted
      split at targeted
      next => exact ⟨.inl rfl, .inr (Option.some.inj targeted)⟩
      next => exact ⟨.inr (Option.some.inj targeted), .inl rfl⟩
      next => cases leftType <;> cases rightType <;> cases targeted
    exact ⟨_, _, applied found, true_before_cast keeps leftTyped fun same => (operands same).1,
      true_before_cast keeps rightTyped fun same => (operands same).2⟩

theorem and_true (keeps : ArrowKernels.KeepsValues F) (leftTyped : left.hasType leftType = true)
    (rightTyped : right.hasType rightType = true)
    (found : Operator.and.result leftType rightType left right = some (.boolean true)) :
    left.toBool = some true ∧ right.toBool = some true := by
  obtain ⟨first, second, known, before, after⟩ := logical_operands keeps rfl rfl leftTyped rightTyped found
  obtain ⟨rfl, rfl⟩ : first = some true ∧ second = some true := by
    rcases first with _ | _ | _ <;> rcases second with _ | _ | _ <;> revert known <;> decide
  exact ⟨before rfl, after rfl⟩

theorem or_true (keeps : ArrowKernels.KeepsValues F) (leftTyped : left.hasType leftType = true)
    (rightTyped : right.hasType rightType = true)
    (found : Operator.or.result leftType rightType left right = some (.boolean true)) :
    left.toBool = some true ∨ right.toBool = some true := by
  obtain ⟨first, second, known, before, after⟩ := logical_operands keeps rfl rfl leftTyped rightTyped found
  have either : first = some true ∨ second = some true := by
    rcases first with _ | _ | _ <;> rcases second with _ | _ | _ <;> revert known <;> decide
  exact either.imp before after

end

def Expr.columnNames : Expr F → List String
  | .column name => [name]
  | .literal _ | .wildcard => []
  | .binary left _ right => left.columnNames ++ right.columnNames
  | .isNull expr _ | .cast expr _ | .aliased expr _ | .aggregate _ expr _ => expr.columnNames

def DataType.isOrdered : DataType → Bool
  | .boolean | .int32 | .int64 | .utf8 => true
  | _ => false

theorem DataType.orderedColumn (keeps : ArrowKernels.KeepsValues F) {dataType : DataType}
    (ordered : dataType.isOrdered = true) : Nonempty (OrderedColumn F dataType) := by
  cases dataType with
  | boolean => exact ⟨.boolean⟩
  | int32 => exact ⟨.int32 keeps⟩
  | int64 => exact ⟨.int64⟩
  | utf8 => exact ⟨.utf8⟩
  | _ => cases ordered

section

variable {parquetColumns : List (Option (Fin width))} {rowGroup : RowGroupMetaData F width}
  {contents : RecordBatch F}

-- The statistics that pruning finds under a name are those of the column that the evaluator reads.
def ReadsColumn (schema : Schema) (parquetColumns : List (Option (Fin width)))
    (rowGroup : RowGroupMetaData F width) (name : String) : Prop :=
  ∀ fieldIndex statistics,
    columnStatistics name schema parquetColumns rowGroup = some (fieldIndex, statistics) →
      schema.resolveFieldIndex name = .ok fieldIndex.val

variable {schema : Schema} {name : String}

theorem column_value {fieldIndex : Fin schema.fields.length}
    (resolved : schema.resolveFieldIndex name = .ok fieldIndex.val) (row : List (Value F)) :
    (Expr.column name : Expr F).typeIn schema = some (schema.fields.get fieldIndex).dataType ∧
      (Expr.column name).valueIn schema row = some (row.getD fieldIndex.val .null) := by
  simp [Expr.typeIn, Expr.valueIn, resolved, Except.toOption, Schema.types]

theorem describes_column {fieldIndex : Fin contents.schema.fields.length}
    (described : rowGroup.Describes parquetColumns contents)
    (found : columnStatistics name contents.schema parquetColumns rowGroup = some (fieldIndex, statistics)) :
    statistics.Correct (contents.rows.map (·.getD fieldIndex.val .null)) := by
  obtain ⟨_, _, parquetIndex, column, recorded⟩ := columnStatistics_first found
  exact described.columns _ _ _ column recorded

variable {op : Operator} {row : List (Value F)} {value : Value F}

theorem columnLiteral_refuted (keeps : ArrowKernels.KeepsValues F)
    (described : rowGroup.Describes parquetColumns contents) (arithmetic : op.isArithmetic = false)
    (logical : op.isLogical = false) (reads : ReadsColumn contents.schema parquetColumns rowGroup name)
    (ordered : ∀ index field, contents.schema.resolveFieldIndex name = .ok index →
      contents.schema.fields[index]? = some field → field.dataType.isOrdered = true)
    (refuted : columnLiteralMayMatch contents.schema parquetColumns rowGroup name op literal = false)
    (member : row ∈ contents.rows) {dataType : DataType}
    (typed : (Expr.column name : Expr F).typeIn contents.schema = some dataType)
    (found : (Expr.column name).valueIn contents.schema row = some value) :
    op.result dataType literal.dataType value literal.toValue ≠ some (.boolean true) ∧
      (reverseComparison op).result literal.dataType dataType literal.toValue value ≠
        some (.boolean true) := by
  have arithmetic' := (isArithmetic_reverse op).trans arithmetic
  have logical' := (isLogical_reverse op).trans logical
  unfold columnLiteralMayMatch at refuted
  split at refuted
  next missing =>
    subst missing
    exact ⟨comparison_with_null keeps arithmetic logical (.inr rfl),
      comparison_with_null keeps arithmetic' logical' (.inl rfl)⟩
  next present =>
    split at refuted
    next => cases refuted
    next fieldIndex statistics consulted =>
      have resolved := reads fieldIndex statistics consulted
      obtain ⟨sameType, sameValue⟩ := column_value resolved row
      obtain rfl := Option.some.inj (sameType.symm.trans typed)
      obtain rfl := Option.some.inj (sameValue.symm.trans found)
      have field := List.getElem?_eq_getElem fieldIndex.isLt
      obtain ⟨column⟩ := DataType.orderedColumn keeps (ordered _ _ resolved field)
      have slot := (Schema.admits_slot (contents.typed row member) field).1
      rcases column.read_typed _ slot with null | ⟨item, here⟩
      · exact ⟨comparison_with_null keeps arithmetic logical (.inl null),
          comparison_with_null keeps arithmetic' logical' (.inr null)⟩
      · have inside := List.mem_map_of_mem (f := (·.getD fieldIndex.val Value.null)) member
        obtain ⟨other, rfl, never⟩ :=
          column.refutes (describes_column described consulted) inside here present refuted
        constructor
        · intro truth
          have known := column.result_slot op _ item other arithmetic logical here
          rw [never] at known
          cases known.symm.trans truth
        · intro truth
          have known := column.result_literal _ _ item other arithmetic' logical' here
          rw [holds_reverse, swap_compare, never] at known
          cases known.symm.trans truth

theorem nullTest_refuted (described : rowGroup.Describes parquetColumns contents) {negated : Bool}
    {fieldIndex : Fin contents.schema.fields.length}
    (consulted : columnStatistics name contents.schema parquetColumns rowGroup = some (fieldIndex, statistics))
    (refuted : (if !(contents.schema.fields.get fieldIndex).nullable then negated
      else match statistics.nullCount with
        | some nulls =>
          if negated then decide (nulls.val < (max rowGroup.numRows 0).toNat) else decide (0 < nulls.val)
        | none => true) = false) (member : row ∈ contents.rows) :
    ((row.getD fieldIndex.val .null).isNull != negated) = false := by
  have correct := describes_column described consulted
  have inside := List.mem_map_of_mem (f := (·.getD fieldIndex.val Value.null)) member
  split at refuted
  next required =>
    have field := List.getElem?_eq_getElem fieldIndex.isLt
    have present := (Schema.admits_slot (contents.typed row member) field).2.resolve_left fun nullable => by
      rw [List.get_eq_getElem, nullable] at required
      cases required
    rw [present, refuted]
    rfl
  next =>
    split at refuted
    next nulls counted =>
      have exactly := correct.nulls nulls counted
      cases negated with
      | false =>
        have none : List.countP (·.isNull) (contents.rows.map (·.getD fieldIndex.val Value.null)) = 0 := by
          simpa [exactly] using refuted
        simpa using List.countP_eq_zero.mp none _ inside
      | true =>
        have many : contents.rows.length ≤ nulls.val := by
          simpa [described.rows, RecordBatch.numRows] using refuted
        have all : List.countP (·.isNull) (contents.rows.map (·.getD fieldIndex.val Value.null)) =
            (contents.rows.map (·.getD fieldIndex.val Value.null)).length := by
          refine Nat.le_antisymm List.countP_le_length ?_
          rwa [← exactly, List.length_map]
        simpa using List.countP_eq_length.mp all _ inside
    next => cases refuted

variable {expr : Expr F}

theorem valueIn_unalias (found : expr.valueIn schema row = some value) :
    expr.unalias.valueIn schema row = some value := by
  cases expr with
  | aliased expr name =>
    cases expr with
    | aliased inner other => cases found
    | _ => exact found
  | _ => exact found

theorem typeIn_unalias {dataType : DataType} (typed : expr.typeIn schema = some dataType) :
    expr.unalias.typeIn schema = some dataType := by
  cases expr with
  | aliased expr name =>
    cases expr with
    | aliased inner other => cases typed
    | _ => exact typed
  | _ => exact typed

omit [ArrowKernels F] in
theorem columnNames_unalias (expr : Expr F) : expr.unalias.columnNames = expr.columnNames := by
  cases expr <;> rfl

structure Consults (contents : RecordBatch F) (parquetColumns : List (Option (Fin width)))
    (rowGroup : RowGroupMetaData F width) (name : String) : Prop where
  reads : ReadsColumn contents.schema parquetColumns rowGroup name
  ordered : ∀ index field, contents.schema.resolveFieldIndex name = .ok index →
    contents.schema.fields[index]? = some field → field.dataType.isOrdered = true

theorem comparison_refuted (keeps : ArrowKernels.KeepsValues F)
    (described : rowGroup.Describes parquetColumns contents) {left right : Expr F}
    (arithmetic : op.isArithmetic = false) (logical : op.isLogical = false)
    (consults : ∀ name ∈ (Expr.binary left op right).columnNames,
      Consults contents parquetColumns rowGroup name)
    (refuted : comparisonMayMatch contents.schema parquetColumns rowGroup left op right = false)
    (member : row ∈ contents.rows) :
    (Expr.binary left op right).valueIn contents.schema row ≠ some (.boolean true) := by
  intro truth
  simp only [Expr.valueIn, Option.bind_eq_bind, Option.bind_eq_some_iff] at truth
  obtain ⟨leftType, leftTyped, rightType, rightTyped, leftValue, leftFound, rightValue, rightFound, truth⟩ := truth
  replace leftTyped := typeIn_unalias leftTyped
  replace rightTyped := typeIn_unalias rightTyped
  replace leftFound := valueIn_unalias leftFound
  replace rightFound := valueIn_unalias rightFound
  have names : (Expr.binary left op right).columnNames = left.unalias.columnNames ++ right.unalias.columnNames := by
    rw [columnNames_unalias, columnNames_unalias]
    rfl
  unfold comparisonMayMatch at refuted
  split at refuted
  next name literal leftIs rightIs =>
    rw [leftIs] at leftTyped leftFound
    rw [rightIs] at rightTyped rightFound
    cases rightTyped
    cases rightFound
    have consulted := consults name (by
      rw [names, leftIs]
      exact List.mem_append_left _ (List.mem_singleton_self name))
    exact (columnLiteral_refuted keeps described arithmetic logical consulted.reads consulted.ordered refuted
      member leftTyped leftFound).1 truth
  next literal name leftIs rightIs =>
    rw [leftIs] at leftTyped leftFound
    rw [rightIs] at rightTyped rightFound
    cases leftTyped
    cases leftFound
    have consulted := consults name (by
      rw [names, rightIs]
      exact List.mem_append_right _ (List.mem_singleton_self name))
    have never := (columnLiteral_refuted keeps described ((isArithmetic_reverse op).trans arithmetic)
      ((isLogical_reverse op).trans logical) consulted.reads consulted.ordered refuted member rightTyped
      rightFound).2
    rw [reverse_reverse] at never
    exact never truth
  next => cases refuted

theorem operands_of_true {left right : Expr F} (member : row ∈ contents.rows)
    (truth : (Expr.binary left op right).valueIn contents.schema row = some (.boolean true)) :
    ∃ leftType rightType leftValue rightValue,
      left.valueIn contents.schema row = some leftValue ∧ leftValue.hasType leftType = true ∧
      right.valueIn contents.schema row = some rightValue ∧ rightValue.hasType rightType = true ∧
      op.result leftType rightType leftValue rightValue = some (.boolean true) := by
  simp only [Expr.valueIn, Option.bind_eq_bind, Option.bind_eq_some_iff] at truth
  obtain ⟨leftType, leftTyped, rightType, rightTyped, leftValue, leftFound, rightValue, rightFound, truth⟩ := truth
  have admitted := contents.typed row member
  exact ⟨leftType, rightType, leftValue, rightValue, leftFound,
    Expr.hasType_valueIn admitted leftTyped leftFound, rightFound,
    Expr.hasType_valueIn admitted rightTyped rightFound, truth⟩

omit [ArrowKernels F] in
theorem eq_true_of_toBool (read : value.toBool = some true) : value = .boolean true := by
  cases value <;> cases read
  rfl

theorem expression_refuted (keeps : ArrowKernels.KeepsValues F)
    (described : rowGroup.Describes parquetColumns contents)
    (consults : ∀ name ∈ expr.columnNames, Consults contents parquetColumns rowGroup name)
    (refuted : expressionMayMatch contents.schema parquetColumns rowGroup expr = false)
    (member : row ∈ contents.rows) : expr.valueIn contents.schema row ≠ some (.boolean true) := by
  induction expr with
  | column name => cases refuted
  | literal value =>
    cases value with
    | null => exact nofun
    | boolean truth =>
      change truth = false at refuted
      subst refuted
      exact nofun
    | _ => cases refuted
  | binary left op right leftIh rightIh =>
    have leftConsults := fun name inside => consults name (List.mem_append_left _ inside)
    have rightConsults := fun name inside => consults name (List.mem_append_right _ inside)
    cases op with
    | and =>
      intro truth
      obtain ⟨_, _, leftValue, rightValue, leftFound, leftTyped, rightFound, rightTyped, truth⟩ :=
        operands_of_true member truth
      obtain ⟨leftTrue, rightTrue⟩ := and_true keeps leftTyped rightTyped truth
      rcases Bool.and_eq_false_iff.mp refuted with here | here
      · exact leftIh leftConsults here (leftFound.trans (congrArg some (eq_true_of_toBool leftTrue)))
      · exact rightIh rightConsults here (rightFound.trans (congrArg some (eq_true_of_toBool rightTrue)))
    | or =>
      intro truth
      obtain ⟨_, _, leftValue, rightValue, leftFound, leftTyped, rightFound, rightTyped, truth⟩ :=
        operands_of_true member truth
      obtain ⟨first, second⟩ := Bool.or_eq_false_iff.mp refuted
      rcases or_true keeps leftTyped rightTyped truth with leftTrue | rightTrue
      · exact leftIh leftConsults first (leftFound.trans (congrArg some (eq_true_of_toBool leftTrue)))
      · exact rightIh rightConsults second (rightFound.trans (congrArg some (eq_true_of_toBool rightTrue)))
    | add | subtract | multiply | divide => cases refuted
    | _ => exact comparison_refuted keeps described rfl rfl consults refuted member
  | isNull expr negated ih =>
    intro truth
    obtain ⟨value, found, truth⟩ := Option.map_eq_some_iff.mp truth
    change nullTestMayMatch contents.schema parquetColumns rowGroup expr negated = false at refuted
    unfold nullTestMayMatch at refuted
    split at refuted
    next name columnIs =>
      split at refuted
      next => cases refuted
      next fieldIndex statistics consulted =>
        have named : name ∈ expr.columnNames := by
          rw [← columnNames_unalias, columnIs]
          exact List.mem_singleton_self name
        have resolved := (consults name named).reads fieldIndex statistics consulted
        have here := valueIn_unalias found
        rw [columnIs, (column_value resolved row).2] at here
        cases here
        have never := nullTest_refuted described consulted refuted member
        rw [never] at truth
        cases truth
    next => cases refuted
  | cast expr target ih => cases refuted
  | aliased expr name ih =>
    cases expr with
    | aliased inner other => cases refuted
    | _ => exact ih consults refuted
  | aggregate function expr distinct ih => cases refuted
  | wildcard => cases refuted

theorem pruned_row_group_has_no_match (keeps : ArrowKernels.KeepsValues F)
    (described : rowGroup.Describes parquetColumns contents) {filters : List (Expr F)}
    (consults : ∀ filter ∈ filters, ∀ name ∈ filter.columnNames,
      Consults contents parquetColumns rowGroup name)
    (pruned : rowGroupMayMatch contents.schema parquetColumns rowGroup filters = false)
    {batch : RecordBatch F} (scanned : batch.schema = contents.schema)
    (rows : ∀ row ∈ batch.rows, row ∈ contents.rows) (index : Nat) :
    ¬∀ filter ∈ filters, ∃ array,
      evaluate filter batch = .ok array ∧ array.values[index]? = some (.boolean true) := by
  intro matched
  obtain ⟨filter, member, refuted⟩ := List.all_eq_false.mp pruned
  obtain ⟨array, evaluated, truth⟩ := matched filter member
  obtain ⟨_, pointwise⟩ := evaluate_eq_ok.mp evaluated
  obtain ⟨row, inside, found⟩ := Rowwise.forall₂_mem pointwise (List.mem_of_getElem? truth)
  rw [scanned] at found
  exact expression_refuted keeps described (consults filter member) (Bool.eq_false_iff.mpr refuted)
    (rows row inside) found

end

namespace SmallNumbers

def five : I64 := ⟨5, by decide, by decide⟩

def nine : I64 := ⟨9, by decide, by decide⟩

def ten : I64 := ⟨10, by decide, by decide⟩

def contents : RecordBatch ℚ :=
  { schema := ⟨[⟨"n", .int64, true, .empty⟩], .empty⟩
    rows := [[.int64 five], [.null], [.int64 nine]]
    typed := by decide }

def rowGroup : RowGroupMetaData ℚ 1 :=
  { numRows := 3
    statistics := fun _ => some
      { bounds := .int64 ⟨some five, some nine⟩, nullCount := some 1, minIsExact := true, maxIsExact := true,
        isMinMaxDeprecated := false, isMinMaxBackwardsCompatible := false } }

theorem described : rowGroup.Describes [some 0] contents where
  rows := rfl
  columns index parquetIndex statistics column recorded := by
    cases recorded
    have only : index = 0 := by
      have inside := (List.getElem?_eq_some_iff.mp column).1
      simpa using inside
    subst only
    constructor
    · rintro count ⟨⟩
      rfl
    all_goals
      rintro _ value member
      rcases List.mem_cons.mp member with rfl | member
      · rintro bound ⟨⟩
        decide
      rcases List.mem_cons.mp member with rfl | member
      · trivial
      obtain rfl := List.mem_singleton.mp member
      rintro bound ⟨⟩
      decide

theorem consults : Consults contents [some 0] rowGroup "n" where
  reads fieldIndex _ _ := by
    have only : fieldIndex.val = 0 := by
      have inside := fieldIndex.isLt
      exact Nat.lt_one_iff.mp inside
    rw [only]
    rfl
  ordered index field resolved present := by
    obtain rfl : 0 = index := Except.ok.inj resolved
    cases present
    rfl

end SmallNumbers

open SmallNumbers in
theorem pruned_row_group_of_small_numbers :
    let filters : List (Expr ℚ) := [.binary (.literal (.int64 ten)) .ltEq (.column "n")]
    rowGroupMayMatch contents.schema [some 0] rowGroup filters = false ∧
      ∀ index : Nat, ¬∀ filter ∈ filters, ∃ array,
        evaluate filter contents = .ok array ∧ array.values[index]? = some (Value.boolean true) := by
  intro filters
  have pruned : rowGroupMayMatch contents.schema [some 0] rowGroup filters = false := rfl
  refine ⟨pruned, pruned_row_group_has_no_match exact_keepsValues described ?_ pruned rfl fun _ => id⟩
  rintro filter member name named
  obtain rfl := List.mem_singleton.mp member
  obtain rfl := List.mem_singleton.mp named
  exact consults

end SparkX
