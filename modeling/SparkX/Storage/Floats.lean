import SparkX.Query.Checked
import SparkX.Shared.Binary64
import SparkX.Storage.Sound

set_option autoImplicit false

namespace SparkX

-- Arrow's kernels on bit patterns: comparisons by the total order, the casts and comparisons that
-- its documentation has, and floats that a cast to 64 bits leaves as they are.
structure ArrowKernels.Ieee [ArrowKernels Binary64] : Prop where
  total : ∀ x y : Binary64, FloatOps.totalCompare x y = x.totalCompare y
  ordered : ∀ x y : Binary64, FloatOps.partialCompare x y = x.partialCompare y
  supports : ArrowKernels.Supports Binary64
  keeps : ArrowKernels.KeepsValues Binary64
  widen : ∀ x : Binary64, ArrowKernels.castValue .float32 .float64 (.float32 x) = .float64 x

def DataType.isFloat : DataType → Bool
  | .float32 | .float64 => true
  | _ => false

def Value.toFloat {F : Type} : Value F → Option F
  | .float32 value | .float64 value => some value
  | _ => none

theorem Value.eq_null_of_toFloat {F : Type} {dataType : DataType} {value : Value F}
    (float : dataType.isFloat = true) (typed : value.hasType dataType = true) (read : value.toFloat = none) :
    value = .null := by
  cases dataType with
  | float32 | float64 => cases value <;> first | rfl | (cases typed; done) | cases read
  | _ => cases float

def RecordBatch.floats {F : Type} (batch : RecordBatch F) (index : Nat) : List F :=
  batch.rows.filterMap fun row => (row.getD index .null).toFloat

theorem RecordBatch.mem_floats {F : Type} {batch : RecordBatch F} {index : Nat} {x : F} :
    x ∈ batch.floats index ↔ ∃ row ∈ batch.rows, (row.getD index .null).toFloat = some x :=
  List.mem_filterMap

def RefutesFloat (op : Operator) (min max : Option Binary64) (literal : Binary64) : Prop :=
  match op with
  | .eq =>
    (∃ bound ∈ min, bound.isNan = false ∧ literal.number < bound.number) ∨
      ∃ bound ∈ max, bound.isNan = false ∧ bound.number < literal.number
  | .lt => ∃ bound ∈ min, bound.isNan = false ∧ literal.number ≤ bound.number
  | .ltEq => ∃ bound ∈ min, bound.isNan = false ∧ literal.number < bound.number
  | .gt => ∃ bound ∈ max, bound.isNan = false ∧ bound.number ≤ literal.number
  | .gtEq => ∃ bound ∈ max, bound.isNan = false ∧ bound.number < literal.number
  | _ => False

theorem refutesFloat_sound {op : Operator} {min max : Option Binary64} {literal x : Binary64}
    (refuted : RefutesFloat op min max literal)
    (lower : ∀ bound ∈ min, bound.isNan = false → bound.number ≤ x.number)
    (upper : ∀ bound ∈ max, bound.isNan = false → x.number ≤ bound.number) :
    (x.partialCompare literal).any op.holds = false := by
  cases found : x.partialCompare literal with
  | none => rfl
  | some outcome =>
    obtain ⟨_, _, rfl⟩ := Binary64.partialCompare_eq_some.mp found
    rw [Option.any_some]
    cases op with
    | eq =>
      have apart : x.number ≠ literal.number := by
        rcases refuted with ⟨bound, member, real, beyond⟩ | ⟨bound, member, real, beyond⟩
        · exact (beyond.trans_le (lower bound member real)).ne'
        · exact ((upper bound member real).trans_lt beyond).ne
      simpa [Operator.holds] using apart
    | lt =>
      obtain ⟨bound, member, real, beyond⟩ := refuted
      simpa [Operator.holds, compare_lt_iff_lt] using beyond.trans (lower bound member real)
    | ltEq =>
      obtain ⟨bound, member, real, beyond⟩ := refuted
      simpa [Operator.holds, compare_gt_iff_gt] using beyond.trans_le (lower bound member real)
    | gt =>
      obtain ⟨bound, member, real, beyond⟩ := refuted
      simpa [Operator.holds, compare_gt_iff_gt] using (upper bound member real).trans beyond
    | gtEq =>
      obtain ⟨bound, member, real, beyond⟩ := refuted
      simpa [Operator.holds, compare_lt_iff_lt] using (upper bound member real).trans_lt beyond
    | _ => cases refuted

def floatBound {F : Type} (side : Side) : ColumnBounds F → DataType → Option F
  | .float bounds, .float32 | .double bounds, .float64 => bounds.at side
  | _, _ => none

variable {side : Side}

theorem statistic_float {bounds : ColumnBounds Binary64} {dataType : DataType}
    (float : dataType.isFloat = true) :
    statistic side bounds dataType = (floatBound side bounds dataType).map .float64 := by
  cases dataType with
  | float32 | float64 => cases bounds <;> rfl
  | _ => cases float

def oneColumn (contents : RecordBatch Binary64) (dataType : DataType) (bounds : Bounds Binary64) :
    RowGroupMetaData Binary64 1 where
  numRows := contents.numRows
  statistics _ := some
    { bounds := if dataType = .float32 then .float bounds else .double bounds
      nullCount := none
      minIsExact := true
      maxIsExact := true
      isMinMaxDeprecated := false
      isMinMaxBackwardsCompatible := false }

def onlyIndex (length index : Nat) : List (Option (Fin 1)) :=
  (List.range length).map fun other => if other = index then some 0 else none

structure Consulted (schema : Schema) (name : String) (index : Nat) : Prop where
  called : schema.calls name index
  first : ∀ earlier < index, ¬schema.calls name earlier

theorem Consulted.columnStatistics {schema : Schema} {name : String} {index : Nat}
    (consulted : Consulted schema name index)
    (rowGroup : RowGroupMetaData Binary64 1) :
    ∃ fieldIndex : Fin schema.fields.length, fieldIndex.val = index ∧
      columnStatistics name schema (onlyIndex schema.fields.length index) rowGroup =
        (rowGroup.statistics 0).map fun statistics => (fieldIndex, statistics) := by
  obtain ⟨field, present, named⟩ := consulted.called
  obtain ⟨inside, rfl⟩ := List.getElem?_eq_some_iff.mp present
  have first : schema.fields.findFinIdx? (fun field => eqIgnoreAsciiCase field.name (unqualified name)) =
      some ⟨index, inside⟩ := by
    refine List.findFinIdx?_eq_some_iff.mpr ⟨named, fun earlier less other => ?_⟩
    exact consulted.first earlier less ⟨_, List.getElem?_eq_getElem earlier.isLt, other⟩
  refine ⟨⟨index, inside⟩, rfl, ?_⟩
  simp only [SparkX.columnStatistics, first, onlyIndex, Option.bind_eq_bind, Option.bind_some,
    List.getElem?_map, List.getElem?_range inside, Option.map_some, if_true, Option.join_some]
  cases rowGroup.statistics 0 <;> rfl

theorem exists_refuting_bounds {op : Operator} {values : List Binary64} {literal : Binary64} (real : literal.isNan = false)
    (ordered : op = .lt ∨ op = .ltEq ∨ op = .gt ∨ op = .gtEq)
    (lowest : ¬(op = .gtEq ∧ literal = .negativeInfinity)) (highest : ¬(op = .ltEq ∧ literal = .infinity))
    (never : ∀ x ∈ values, (x.partialCompare literal).any op.holds = false) :
    ∃ bounds : Bounds Binary64, RefutesFloat op bounds.min bounds.max literal ∧
      ∀ side, ∀ bound ∈ bounds.at side, ∀ x ∈ values, bound.partialCompare x ≠ some side.beyond := by
  obtain ⟨least, leastReal, below, least_mem⟩ :=
    Binary64.exists_extreme Binary64.number values (show Binary64.infinity.isNan = false by decide)
  obtain ⟨greatest, greatestReal, above, greatest_mem⟩ :=
    Binary64.exists_extreme (-Binary64.number ·) values (show Binary64.negativeInfinity.isNan = false by decide)
  have failed {x : Binary64} (number : x.isNan = false) (member : x ∈ values) :
      op.holds (compare x.number literal.number) = false := by
    have refuted := never x member
    rwa [Binary64.partialCompare_eq_some.mpr ⟨number, real, rfl⟩, Option.any_some] at refuted
  have lower : ∀ x ∈ values, least.partialCompare x ≠ some .gt := by
    intro x member found
    obtain ⟨_, number, more⟩ := Binary64.partialCompare_eq_some.mp found
    exact Int.not_lt.mpr (below x member number) (compare_gt_iff_gt.mp more)
  have upper : ∀ x ∈ values, greatest.partialCompare x ≠ some .lt := by
    intro x member found
    obtain ⟨_, number, less⟩ := Binary64.partialCompare_eq_some.mp found
    exact Int.not_lt.mpr (Int.neg_le_neg_iff.mp (above x member number)) (compare_lt_iff_lt.mp less)
  rcases ordered with rfl | rfl | rfl | rfl
  · refine ⟨⟨some least, none⟩, ⟨least, rfl, leastReal, ?_⟩, ?_⟩
    · rcases least_mem with member | rfl
      · simpa [Operator.holds, compare_lt_iff_lt] using failed leastReal member
      · exact Binary64.number_le_infinity real
    · rintro (_ | _) bound ⟨⟩
      exact lower
  · refine ⟨⟨some least, none⟩, ⟨least, rfl, leastReal, ?_⟩, ?_⟩
    · rcases least_mem with member | rfl
      · simpa [Operator.holds, compare_gt_iff_gt] using failed leastReal member
      · exact Int.not_le.mp fun extreme => highest ⟨rfl, Binary64.eq_infinity extreme real⟩
    · rintro (_ | _) bound ⟨⟩
      exact lower
  · refine ⟨⟨none, some greatest⟩, ⟨greatest, rfl, greatestReal, ?_⟩, ?_⟩
    · rcases greatest_mem with member | rfl
      · simpa [Operator.holds, compare_gt_iff_gt] using failed greatestReal member
      · exact Binary64.negativeInfinity_le_number real
    · rintro (_ | _) bound ⟨⟩
      exact upper
  · refine ⟨⟨none, some greatest⟩, ⟨greatest, rfl, greatestReal, ?_⟩, ?_⟩
    · rcases greatest_mem with member | rfl
      · simpa [Operator.holds, compare_lt_iff_lt] using failed greatestReal member
      · exact Int.not_le.mp fun extreme => lowest ⟨rfl, Binary64.eq_negativeInfinity extreme real⟩
    · rintro (_ | _) bound ⟨⟩
      exact upper

section

variable [ArrowKernels Binary64]

variable {op : Operator} {dataType : DataType} {literal : Binary64}

variable {value : Value Binary64}

theorem result_float (ieee : ArrowKernels.Ieee) {x : Binary64} (float : dataType.isFloat = true)
    (typed : value.hasType dataType = true) (arithmetic : op.isArithmetic = false)
    (logical : op.isLogical = false) (here : value.toFloat = some x) :
    op.result dataType .float64 value (.float64 literal) =
      some (.boolean (op.holds (x.totalCompare literal))) := by
  rw [← ieee.total]
  cases dataType with
  | float64 =>
    cases value <;> cases here <;> cases typed
    exact OrderedColumn.result_same arithmetic logical nofun rfl rfl
  | float32 =>
    cases value <;> cases here <;> cases typed
    have targeted : op.targetType .float32 .float64 = some .float64 :=
      OrderedColumn.targetType_common arithmetic nofun nofun
    exact OrderedColumn.result_cast arithmetic logical targeted nofun nofun (ieee.widen _)
      (ieee.keeps.self _ _ rfl) rfl rfl
  | _ => cases float

theorem resultType_float (ieee : ArrowKernels.Ieee) (float : dataType.isFloat = true)
    (arithmetic : op.isArithmetic = false) (logical : op.isLogical = false) :
    ∃ computed, op.resultType Binary64 dataType .float64 = some computed := by
  have comparison : op.isComparison = true := by simp [Operator.isComparison, arithmetic, logical]
  refine (Operator.comparison_isSome ieee.supports comparison).mpr ⟨?_, ?_⟩
  · cases dataType with
    | float64 => exact .inl rfl
    | float32 => exact .inr (.inr (.inr rfl))
    | _ => cases float
  · rintro name (rfl | unnamed)
    · cases float
    · cases unnamed

theorem result_null_float (ieee : ArrowKernels.Ieee) (float : dataType.isFloat = true)
    (arithmetic : op.isArithmetic = false) (logical : op.isLogical = false) :
    op.result dataType .float64 .null (.float64 literal) = some .null := by
  have unknown (output : DataType) (right : Value Binary64) : op.apply output .null right = .ok .null := by
    simp [Operator.apply, arithmetic, logical, Value.isNull]
  cases dataType with
  | float64 => simp [Operator.result, unknown, Except.toOption]
  | float32 =>
    have targeted : op.targetType .float32 .float64 = some .float64 :=
      OrderedColumn.targetType_common arithmetic (by simp) (by simp)
    simp [Operator.result, targeted, ieee.keeps.null, unknown, Except.toOption]
  | _ => cases float

theorem boundsMayMatch_float (ieee : ArrowKernels.Ieee) (float : dataType.isFloat = true)
    {min max : Option Binary64} :
    boundsMayMatch op (.float64 literal) dataType (min.map .float64) (max.map .float64) = false ↔
      literal.isNan = false ∧ RefutesFloat op min max literal := by
  have less (x y : Binary64) : (ScalarValue.float64 x).partialCompare (.float64 y) = some .lt ↔
      x.isNan = false ∧ y.isNan = false ∧ x.number < y.number := by
    rw [ScalarValue.partialCompare, ieee.ordered, Binary64.partialCompare_eq_some, compare_lt_iff_lt]
  have more (x y : Binary64) : (ScalarValue.float64 x).partialCompare (.float64 y) = some .gt ↔
      x.isNan = false ∧ y.isNan = false ∧ y.number < x.number := by
    rw [ScalarValue.partialCompare, ieee.ordered, Binary64.partialCompare_eq_some, compare_gt_iff_gt]
  have equal (x y : Binary64) : (ScalarValue.float64 x).partialCompare (.float64 y) = some .eq ↔
      x.isNan = false ∧ y.isNan = false ∧ x.number = y.number := by
    rw [ScalarValue.partialCompare, ieee.ordered, Binary64.partialCompare_eq_some, compare_eq_iff_eq]
  have all_false {test : ScalarValue Binary64 → Bool} {bound : Option Binary64} :
      (bound.map ScalarValue.float64).all test = false ↔ ∃ x ∈ bound, test (.float64 x) = false := by
    cases bound <;> simp
  have any_true {test : ScalarValue Binary64 → Bool} {bound : Option Binary64} :
      (bound.map ScalarValue.float64).any test = true ↔ ∃ x ∈ bound, test (.float64 x) = true := by
    cases bound <;> simp
  have typed : dataType = .float32 ∨ dataType = .float64 := by
    cases dataType <;> first | exact .inl rfl | exact .inr rfl | cases float
  cases op with
  | notEq => simp [boundsMayMatch, RefutesFloat, typed]
  | eq =>
    simp only [boundsMayMatch, RefutesFloat, Bool.and_eq_false_iff, all_false, decide_eq_false_iff_not,
      not_not, less, more, ne_eq]
    grind
  | ltEq | gtEq =>
    simp only [boundsMayMatch, RefutesFloat, all_false, decide_eq_false_iff_not, not_not, less, more, ne_eq]
    grind
  | lt | gt =>
    simp only [boundsMayMatch, RefutesFloat, Bool.not_eq_false', any_true, decide_eq_true_eq, less, more, equal]
    grind
  | _ => simp [boundsMayMatch, RefutesFloat]

theorem bounded_float (ieee : ArrowKernels.Ieee) {bounds : ColumnBounds Binary64} {bound x : Binary64}
    (typed : value.hasType dataType = true) (here : value.toFloat = some x)
    (bounded : bounds.Bound side value) (found : floatBound side bounds dataType = some bound) :
    bound.partialCompare x ≠ some side.beyond := by
  rw [← ieee.ordered]
  unfold floatBound at found
  split at found
  · cases value <;> cases here <;> cases typed
    exact bounded bound found
  · cases value <;> cases here <;> cases typed
    exact bounded bound found
  · cases found

section

variable {contents : RecordBatch Binary64} {name : String} {index : Nat} {field : Field} {op : Operator}

theorem valueIn_float (ieee : ArrowKernels.Ieee)
    (resolved : contents.schema.resolveFieldIndex name = .ok index)
    (present : contents.schema.fields[index]? = some field) (float : field.dataType.isFloat = true)
    (arithmetic : op.isArithmetic = false) (logical : op.isLogical = false)
    (literal : Binary64) {row : List (Value Binary64)} (member : row ∈ contents.rows) :
    (Expr.binary (.column name) op (.literal (.float64 literal))).valueIn contents.schema row =
      some ((row.getD index .null).toFloat.elim .null fun x => .boolean (op.holds (x.totalCompare literal))) := by
  have typed := (Schema.admits_slot (contents.typed row member) present).1
  have known : (Expr.column name : Expr Binary64).typeIn contents.schema = some field.dataType := by
    simp [Expr.typeIn, resolved, Except.toOption, Schema.types, present]
  have here : (Expr.column name : Expr Binary64).valueIn contents.schema row =
      some (row.getD index .null) := by
    simp [Expr.valueIn, resolved, Except.toOption]
  rw [Expr.valueIn, known, here]
  change op.result field.dataType .float64 (row.getD index .null) (.float64 literal) = _
  cases read : (row.getD index .null).toFloat with
  | some x => exact result_float ieee float typed arithmetic logical read
  | none =>
    rw [Value.eq_null_of_toFloat float typed read]
    exact result_null_float ieee float arithmetic logical

theorem evaluate_float (ieee : ArrowKernels.Ieee)
    (resolved : contents.schema.resolveFieldIndex name = .ok index)
    (present : contents.schema.fields[index]? = some field) (float : field.dataType.isFloat = true)
    (arithmetic : op.isArithmetic = false) (logical : op.isLogical = false) (literal : Binary64) :
    (∃ array, evaluate (.binary (.column name) op (.literal (.float64 literal))) contents = .ok array ∧
      .boolean true ∈ array.values) ↔
      ∃ x ∈ contents.floats index, op.holds (x.totalCompare literal) = true := by
  have value {row : List (Value Binary64)} (member : row ∈ contents.rows) :=
    valueIn_float ieee resolved present float arithmetic logical literal member
  simp only [RecordBatch.floats, List.mem_filterMap]
  constructor
  · rintro ⟨array, evaluated, truth⟩
    obtain ⟨row, member, found⟩ := Rowwise.forall₂_mem (evaluate_eq_ok.mp evaluated).2 truth
    rw [value member] at found
    cases read : (row.getD index .null).toFloat with
    | none =>
      rw [read] at found
      cases found
    | some x =>
      rw [read] at found
      exact ⟨x, ⟨row, member, read⟩, Value.boolean.inj (Option.some.inj found)⟩
  · rintro ⟨x, ⟨row, member, read⟩, truth⟩
    obtain ⟨computed, typed⟩ := resultType_float ieee float arithmetic logical
    have known : (Expr.binary (.column name) op (.literal (.float64 literal))).typeIn contents.schema =
        some computed := by
      simpa [Expr.typeIn, resolved, Except.toOption, Schema.types, present, ScalarValue.dataType] using typed
    obtain ⟨array, evaluated, _⟩ := exists_evaluate.mpr ⟨known, fun row member => ⟨_, value member⟩⟩
    refine ⟨array, evaluated, ?_⟩
    obtain ⟨found, inside, here⟩ := Rowwise.forall₂_item (evaluate_eq_ok.mp evaluated).2 member
    rw [value member, read, Option.elim_some, truth] at here
    exact Option.some.inj here ▸ inside

theorem columnLiteral_float (ieee : ArrowKernels.Ieee) {width : Nat} {parquetColumns : List (Option (Fin width))}
    {rowGroup : RowGroupMetaData Binary64 width} (described : rowGroup.Describes parquetColumns contents)
    (reads : ReadsColumn contents.schema parquetColumns rowGroup name)
    (resolved : contents.schema.resolveFieldIndex name = .ok index)
    (present : contents.schema.fields[index]? = some field) (float : field.dataType.isFloat = true)
    {literal : Binary64}
    (refuted : columnLiteralMayMatch contents.schema parquetColumns rowGroup name op (.float64 literal) = false) :
    literal.isNan = false ∧ ∃ min max, RefutesFloat op min max literal ∧
      ∀ x ∈ contents.floats index, x.isNan = false →
        (∀ bound ∈ min, bound.isNan = false → bound.number ≤ x.number) ∧
        (∀ bound ∈ max, bound.isNan = false → x.number ≤ bound.number) := by
  unfold columnLiteralMayMatch at refuted
  rw [if_neg nofun] at refuted
  split at refuted
  next => cases refuted
  next fieldIndex statistics consulted =>
    obtain rfl : fieldIndex.val = index :=
      Except.ok.inj ((reads fieldIndex statistics consulted).symm.trans resolved)
    obtain rfl : contents.schema.fields[fieldIndex] = field := by
      rw [List.getElem?_eq_getElem fieldIndex.isLt] at present
      exact Option.some.inj present
    have correct := describes_column described consulted
    have usable (side : Side) (usable : Bool) :
        (if usable then statistic side statistics.bounds contents.schema.fields[fieldIndex].dataType else none) =
          (if usable then floatBound side statistics.bounds contents.schema.fields[fieldIndex].dataType
            else none).map .float64 := by
      cases usable
      · rfl
      · exact statistic_float float
    simp only [Statistics.min, Statistics.max, statisticMin, statisticMax, usable] at refuted
    obtain ⟨real, refutes⟩ := (boundsMayMatch_float ieee float).mp refuted
    refine ⟨real, _, _, refutes, fun x member number => ?_⟩
    obtain ⟨row, inside, here⟩ := RecordBatch.mem_floats.mp member
    have typed := (Schema.admits_slot (contents.typed row inside) present).1
    have among := List.mem_map_of_mem (f := (·.getD fieldIndex.val Value.null)) inside
    constructor
    · intro bound found boundReal
      obtain ⟨exact, found⟩ := Option.ite_none_right_eq_some.mp found
      have bounded := bounded_float ieee typed here
        (correct.lower (Bool.and_eq_true_iff.mp exact).2 _ among) found
      exact Int.not_lt.mp fun less => bounded (Binary64.partialCompare_eq_some.mpr
        ⟨boundReal, number, compare_gt_iff_gt.mpr less⟩)
    · intro bound found boundReal
      obtain ⟨exact, found⟩ := Option.ite_none_right_eq_some.mp found
      have bounded := bounded_float ieee typed here
        (correct.upper (Bool.and_eq_true_iff.mp exact).2 _ among) found
      exact Int.not_lt.mp fun less => bounded (Binary64.partialCompare_eq_some.mpr
        ⟨boundReal, number, compare_lt_iff_lt.mpr less⟩)

variable {bounds : Bounds Binary64}

theorem bound_float {dataType : DataType} (float : dataType.isFloat = true)
    (bounded : ∀ x, value.toFloat = some x → ∀ bound ∈ bounds.at side,
      FloatOps.partialCompare bound x ≠ some side.beyond) :
    ColumnBounds.Bound side (if dataType = .float32 then .float bounds else .double bounds) value := by
  cases dataType with
  | float32 | float64 => cases value <;> first | trivial | exact bounded _ rfl
  | _ => cases float

theorem oneColumn_describes (ieee : ArrowKernels.Ieee) {bounds : Bounds Binary64} (length : Nat)
    (float : field.dataType.isFloat = true)
    (bounded : ∀ side, ∀ bound ∈ bounds.at side, ∀ x ∈ contents.floats index,
      bound.partialCompare x ≠ some side.beyond) :
    (oneColumn contents field.dataType bounds).Describes (onlyIndex length index) contents where
  rows := rfl
  columns other parquetIndex statistics column recorded := by
    obtain rfl : other = index := by
      rw [onlyIndex, List.getElem?_map] at column
      obtain ⟨found, here, chosen⟩ := Option.map_eq_some_iff.mp column
      obtain ⟨_, rfl⟩ := List.getElem?_eq_some_iff.mp here
      rw [List.getElem_range] at chosen
      by_contra different
      rw [if_neg different] at chosen
      cases chosen
    cases recorded
    have bound (side : Side) : ∀ value ∈ contents.rows.map (·.getD other Value.null),
        ColumnBounds.Bound side (if field.dataType = .float32 then .float bounds else .double bounds) value := by
      intro value member
      obtain ⟨row, inside, rfl⟩ := List.mem_map.mp member
      refine bound_float float fun x here found known => ?_
      rw [ieee.ordered]
      exact bounded side found known x (RecordBatch.mem_floats.mpr ⟨row, inside, here⟩)
    exact ⟨nofun, fun _ => bound .min, fun _ => bound .max⟩

omit [ArrowKernels Binary64] in
theorem oneColumn_reads (resolved : contents.schema.resolveFieldIndex name = .ok index)
    (consulted : Consulted contents.schema name index) {dataType : DataType} :
    ReadsColumn contents.schema (onlyIndex contents.schema.fields.length index)
      (oneColumn contents dataType bounds) name := by
  intro fieldIndex statistics found
  obtain ⟨known, same, consults⟩ := consulted.columnStatistics (oneColumn contents dataType bounds)
  rw [consults] at found
  obtain ⟨_, _, pair⟩ := Option.map_eq_some_iff.mp found
  rw [← (Prod.mk.inj pair).1, same]
  exact resolved

theorem oneColumn_prunes (ieee : ArrowKernels.Ieee) (consulted : Consulted contents.schema name index)
    (present : contents.schema.fields[index]? = some field) (float : field.dataType.isFloat = true)
    {literal : Binary64} (real : literal.isNan = false)
    (refutes : RefutesFloat op bounds.min bounds.max literal) :
    columnLiteralMayMatch contents.schema (onlyIndex contents.schema.fields.length index)
      (oneColumn contents field.dataType bounds) name op (.float64 literal) = false := by
  obtain ⟨fieldIndex, rfl, consults⟩ := consulted.columnStatistics (oneColumn contents field.dataType bounds)
  obtain rfl : contents.schema.fields[fieldIndex] = field := by
    rw [List.getElem?_eq_getElem fieldIndex.isLt] at present
    exact Option.some.inj present
  unfold columnLiteralMayMatch
  rw [if_neg nofun, consults]
  have usable (side : Side) :
      statistic side (if contents.schema.fields[fieldIndex].dataType = .float32 then .float bounds
        else .double bounds) contents.schema.fields[fieldIndex].dataType = (bounds.at side).map .float64 := by
    generalize contents.schema.fields[fieldIndex].dataType = dataType at float
    cases dataType with
    | float32 | float64 => rfl
    | _ => cases float
  change boundsMayMatch op (.float64 literal) _ (statistic .min _ _) (statistic .max _ _) = false
  rw [usable, usable]
  exact (boundsMayMatch_float ieee float).mpr ⟨real, refutes⟩

-- Bounds can only mislead pruning about a comparison that is true of no number.
def SeenByBounds (op : Operator) (values : List Binary64) (literal : Binary64) : Prop :=
  op = .notEq ∨ literal.isNan = true ∨
    op = .gtEq ∧ literal = .negativeInfinity ∨ op = .ltEq ∧ literal = .infinity ∨
    ((∃ x ∈ values, op.holds (x.totalCompare literal) = true) →
      ∃ x ∈ values, (x.partialCompare literal).any op.holds = true)

theorem float_pruning_sound (ieee : ArrowKernels.Ieee)
    (resolved : contents.schema.resolveFieldIndex name = .ok index)
    (consulted : Consulted contents.schema name index)
    (present : contents.schema.fields[index]? = some field) (float : field.dataType.isFloat = true)
    (arithmetic : op.isArithmetic = false) (logical : op.isLogical = false) (literal : Binary64) :
    (∀ (width : Nat) (parquetColumns : List (Option (Fin width))) (rowGroup : RowGroupMetaData Binary64 width),
      rowGroup.Describes parquetColumns contents →
      ReadsColumn contents.schema parquetColumns rowGroup name →
      columnLiteralMayMatch contents.schema parquetColumns rowGroup name op (.float64 literal) = false →
      ¬∃ array, evaluate (.binary (.column name) op (.literal (.float64 literal))) contents = .ok array ∧
        .boolean true ∈ array.values) ↔
      SeenByBounds op (contents.floats index) literal := by
  rw [evaluate_float ieee resolved present float arithmetic logical literal]
  constructor
  · intro sound
    by_contra unseen
    simp only [SeenByBounds, not_or, Classical.not_imp] at unseen
    obtain ⟨notEq, nan, lowest, highest, matched, never⟩ := unseen
    have real : literal.isNan = false := Bool.eq_false_iff.mpr nan
    have refuted : ∀ x ∈ contents.floats index, (x.partialCompare literal).any op.holds = false :=
      fun x member => Bool.eq_false_iff.mpr fun found => never ⟨x, member, found⟩
    have ordered : op = .lt ∨ op = .ltEq ∨ op = .gt ∨ op = .gtEq := by
      cases op with
      | eq =>
        -- Equal in the total order is equal in bits.
        obtain ⟨x, member, same⟩ := matched
        obtain rfl : x = literal := Binary64.eq_of_place_eq
          (compare_eq_iff_eq.mp (by simpa [Operator.holds, Binary64.totalCompare] using same))
        refine absurd (refuted x member) ?_
        rw [Binary64.partialCompare_eq_some.mpr ⟨real, real, compare_eq_iff_eq.mpr rfl⟩]
        decide
      | notEq => exact absurd rfl notEq
      | lt | ltEq | gt | gtEq => decide
      | and | or => cases logical
      | _ => cases arithmetic
    obtain ⟨bounds, refutes, bounded⟩ := exists_refuting_bounds real ordered lowest highest refuted
    exact sound 1 _ (oneColumn contents field.dataType bounds)
      (oneColumn_describes ieee contents.schema.fields.length float bounded)
      (oneColumn_reads resolved consulted) (oneColumn_prunes ieee consulted present float real refutes) matched
  · intro seen width parquetColumns rowGroup described reads refuted matched
    obtain ⟨real, min, max, refutes, bounded⟩ :=
      columnLiteral_float ieee described reads resolved present float refuted
    rcases seen with rfl | nan | ⟨rfl, rfl⟩ | ⟨rfl, rfl⟩ | seen
    · exact refutes
    · rw [real] at nan
      cases nan
    · obtain ⟨bound, _, number, beyond⟩ := refutes
      exact Int.not_lt.mpr (Binary64.negativeInfinity_le_number number) beyond
    · obtain ⟨bound, _, number, beyond⟩ := refutes
      exact Int.not_lt.mpr (Binary64.number_le_infinity number) beyond
    · obtain ⟨x, member, found⟩ := seen matched
      have number : x.isNan = false := by
        cases compared : x.partialCompare literal with
        | none =>
          rw [compared] at found
          cases found
        | some outcome => exact (Binary64.partialCompare_eq_some.mp compared).1
      obtain ⟨lower, upper⟩ := bounded x member number
      rw [refutesFloat_sound refutes lower upper] at found
      cases found

end

end

def castMachine (target : DataType) (value : Value Binary64) : Value Binary64 :=
  match value, target with
  | .int32 number, .int64 => .int64 number.widen
  | .float32 number, .float64 => .float64 number
  | _, _ => if value.hasType target then value else .null

theorem hasType_castMachine (target : DataType) (value : Value Binary64) :
    (castMachine target value).hasType target = true := by
  unfold castMachine
  split
  · rfl
  · rfl
  · split
    next typed => exact typed
    next => exact Value.hasType_null target

-- The arithmetic of the machine on bit patterns, with those casts that keep a value.
instance : FloatOps Binary64 where
  decEq := inferInstance
  totalCompare := Binary64.totalCompare
  partialCompare := Binary64.partialCompare
  add x y := .ofFloat (x.toFloat + y.toFloat)
  sub x y := .ofFloat (x.toFloat - y.toFloat)
  mul x y := .ofFloat (x.toFloat * y.toFloat)
  div x y := .ofFloat (x.toFloat / y.toFloat)
  ofInt number := .ofFloat (Float.ofInt number)
  narrow x := .ofFloat x.toFloat.toFloat32.toFloat
  narrowOfInt number := .ofFloat (Float.ofInt number).toFloat32.toFloat
  toText x := x.toFloat.toString

instance machine : ArrowKernels Binary64 where
  canCast source target := source = target || source = .null || source.isNumeric && target.isNumeric
  castValue _ target value := castMachine target value
  hasType_castValue _ target value := hasType_castMachine target value
  canCompare _ := true
  arithmeticType _ _ := none
  arithmetic _ _ _ _ := .error .divideByZero
  sortIndices := stableIndices
  sortIndices_perm _ _ := List.perm_insertionSort _ _

theorem machine_ieee : ArrowKernels.Ieee where
  total _ _ := rfl
  ordered _ _ := rfl
  supports :=
    { cast_self := fun dataType => by simp [ArrowKernels.canCast]
      cast_numeric := fun source target first second => by simp [ArrowKernels.canCast, first, second]
      cast_null := fun target _ => by simp [ArrowKernels.canCast]
      compare := fun _ _ => rfl }
  keeps :=
    { null := fun _ target => by cases target <;> rfl
      self := fun dataType value typed => by
        change castMachine dataType value = value
        unfold castMachine
        split
        · cases typed
        · cases typed
        · exact if_pos typed
      widen := fun _ => rfl }
  widen _ := rfl

def one : Binary64 := ⟨0x3ff0000000000000⟩

def five : Binary64 := ⟨0x4014000000000000⟩

def seven : Binary64 := ⟨0x401c000000000000⟩

def nan : Binary64 := ⟨0x7ff8000000000000⟩

def floatColumn (values : List Binary64) : RecordBatch Binary64 where
  schema := ⟨[⟨"x", .float64, true, .empty⟩], .empty⟩
  rows := values.map fun value => [.float64 value]
  typed := by
    intro row member
    obtain ⟨value, _, rfl⟩ := List.mem_map.mp member
    exact .cons ⟨rfl, .inl rfl⟩ .nil

theorem floatColumn_consulted (values : List Binary64) : Consulted (floatColumn values).schema "x" 0 where
  called := ⟨_, rfl, rfl⟩
  first _ less := absurd less (Nat.not_lt_zero _)

theorem float_pruning_sound_of_numbers :
    SeenByBounds .gt ((floatColumn [one, seven]).floats 0) five ∧
    ∀ (width : Nat) (parquetColumns : List (Option (Fin width))) (rowGroup : RowGroupMetaData Binary64 width),
      rowGroup.Describes parquetColumns (floatColumn [one, seven]) →
      ReadsColumn (floatColumn [one, seven]).schema parquetColumns rowGroup "x" →
      columnLiteralMayMatch (floatColumn [one, seven]).schema parquetColumns rowGroup "x" .gt (.float64 five) =
        false →
      ¬∃ array, evaluate (.binary (.column "x") .gt (.literal (.float64 five))) (floatColumn [one, seven]) =
        .ok array ∧ .boolean true ∈ array.values := by
  have seen : SeenByBounds .gt ((floatColumn [one, seven]).floats 0) five :=
    .inr (.inr (.inr (.inr fun _ => ⟨seven, by simp [floatColumn, RecordBatch.floats, Value.toFloat], by decide⟩)))
  exact ⟨seen, (float_pruning_sound machine_ieee rfl (floatColumn_consulted _) rfl rfl rfl rfl five).mpr seen⟩

theorem float_pruning_loses_nan :
    let contents := floatColumn [one, nan]
    let rowGroup := oneColumn contents .float64 ⟨some one, some one⟩
    rowGroup.Describes [some 0] contents ∧ ReadsColumn contents.schema [some 0] rowGroup "x" ∧
      columnLiteralMayMatch contents.schema [some 0] rowGroup "x" .gt (.float64 five) = false ∧
      ∃ array, evaluate (.binary (.column "x") .gt (.literal (.float64 five))) contents = .ok array ∧
        .boolean true ∈ array.values := by
  intro contents rowGroup
  have bounded : ∀ side, ∀ bound ∈ (Bounds.mk (some one) (some one)).at side, ∀ x ∈ contents.floats 0,
      bound.partialCompare x ≠ some side.beyond := by
    intro side bound found x member
    have known : x = one ∨ x = nan := by
      simpa [contents, floatColumn, RecordBatch.floats, Value.toFloat] using member
    obtain rfl : one = bound := by cases side <;> exact Option.some.inj found
    rcases known with rfl | rfl <;> cases side <;> decide
  have described : rowGroup.Describes (onlyIndex 1 0) contents :=
    @oneColumn_describes _ contents 0 ⟨"x", .float64, true, .empty⟩ machine_ieee _ 1 rfl bounded
  have reads : ReadsColumn contents.schema (onlyIndex 1 0) rowGroup "x" :=
    oneColumn_reads rfl (floatColumn_consulted _)
  exact ⟨described, reads, by decide, _, rfl, List.mem_cons_of_mem _ (List.mem_singleton_self _)⟩

end SparkX
