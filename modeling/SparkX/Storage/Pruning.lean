import SparkX.Query.Expr
import SparkX.Query.Names

set_option autoImplicit false

-- A Parquet file records bounds and null counts for the columns of each row group. A scan leaves
-- out the row groups in which, by these statistics, no row can pass the filters.

namespace SparkX

inductive Side where
  | min
  | max
deriving DecidableEq

structure Bounds (α : Type) where
  min : Option α
  max : Option α

def Bounds.at {α : Type} (bounds : Bounds α) : Side → Option α
  | .min => bounds.min
  | .max => bounds.max

-- The bounds of a column, in its physical type.
inductive ColumnBounds (F : Type) where
  | boolean (bounds : Bounds Bool)
  | int32 (bounds : Bounds I32)
  | int64 (bounds : Bounds I64)
  | int96
  | float (bounds : Bounds F)
  | double (bounds : Bounds F)
  | byteArray (bounds : Bounds ByteArray)
  | fixedLenByteArray

structure Statistics (F : Type) where
  bounds : ColumnBounds F
  nullCount : Option U64
  minIsExact : Bool
  maxIsExact : Bool
  isMinMaxDeprecated : Bool
  isMinMaxBackwardsCompatible : Bool

-- The metadata of a row group in a file with `width` columns.
structure RowGroupMetaData (F : Type) (width : Nat) where
  numRows : Int
  statistics : Fin width → Option (Statistics F)

variable {F : Type} {width : Nat}

def eqIgnoreAsciiCase (left right : String) : Bool :=
  left.toList.map Char.toLower = right.toList.map Char.toLower

-- `parquetColumns` has the column of the file for each field of the schema that has exactly one.
def columnStatistics (name : String) (schema : Schema) (parquetColumns : List (Option (Fin width)))
    (rowGroup : RowGroupMetaData F width) : Option (Fin schema.fields.length × Statistics F) := do
  let fieldIndex ← schema.fields.findFinIdx? fun field => eqIgnoreAsciiCase field.name (unqualified name)
  let parquetIndex ← parquetColumns[fieldIndex.val]?.join
  let statistics ← rowGroup.statistics parquetIndex
  return (fieldIndex, statistics)

-- The field has the name, or the last part of a qualified name, up to the case of letters.
def Schema.calls (schema : Schema) (name : String) (index : Nat) : Prop :=
  ∃ field, schema.fields[index]? = some field ∧ eqIgnoreAsciiCase field.name (unqualified name) = true

theorem columnStatistics_first {name : String} {schema : Schema} {parquetColumns : List (Option (Fin width))}
    {rowGroup : RowGroupMetaData F width} {fieldIndex : Fin schema.fields.length}
    {statistics : Statistics F}
    (found : columnStatistics name schema parquetColumns rowGroup = some (fieldIndex, statistics)) :
    schema.calls name fieldIndex ∧ (∀ earlier < fieldIndex.val, ¬schema.calls name earlier) ∧
      ∃ parquetIndex, parquetColumns[fieldIndex.val]? = some (some parquetIndex) ∧
        rowGroup.statistics parquetIndex = some statistics := by
  simp only [columnStatistics, Option.bind_eq_bind, Option.bind_eq_some_iff, Option.pure_def,
    Option.some.injEq, Prod.mk.injEq] at found
  obtain ⟨index, first, parquetIndex, column, _, recorded, rfl, rfl⟩ := found
  obtain ⟨called, before⟩ := List.findFinIdx?_eq_some_iff.mp first
  refine ⟨⟨_, List.getElem?_eq_getElem index.isLt, called⟩, ?_, parquetIndex,
    Option.join_eq_some_iff.mp column, recorded⟩
  rintro earlier less ⟨field, present, named⟩
  obtain ⟨inside, rfl⟩ := List.getElem?_eq_some_iff.mp present
  exact before ⟨earlier, inside⟩ less named

def noBounds (F : Type) : Statistics F :=
  { bounds := .int96, nullCount := none, minIsExact := false, maxIsExact := false,
    isMinMaxDeprecated := false, isMinMaxBackwardsCompatible := false }

def recordedEverywhere (F : Type) : RowGroupMetaData F 1 :=
  { numRows := 0, statistics := fun _ => some (noBounds F) }

theorem exists_columnStatistics {name : String} {schema : Schema} {index : Nat}
    (called : schema.calls name index) : ∃ fieldIndex statistics, fieldIndex.val ≤ index ∧
      columnStatistics name schema (List.replicate schema.fields.length (some 0)) (recordedEverywhere F) =
        some (fieldIndex, statistics) := by
  obtain ⟨field, present, named⟩ := called
  cases first : schema.fields.findFinIdx? fun field => eqIgnoreAsciiCase field.name (unqualified name) with
  | none => exact absurd named (List.findFinIdx?_eq_none_iff.mp first field (List.mem_of_getElem? present))
  | some fieldIndex =>
    obtain ⟨inside, rfl⟩ := List.getElem?_eq_some_iff.mp present
    refine ⟨fieldIndex, noBounds F, ?_, ?_⟩
    · by_contra later
      exact (List.findFinIdx?_eq_some_iff.mp first).2 ⟨index, inside⟩ (Nat.not_le.mp later) named
    · simp [columnStatistics, first, recordedEverywhere]

theorem statistics_of_resolved_field (F : Type) (schema : Schema) (name : String) :
    (∀ index, schema.resolveFieldIndex name = .ok index →
        ∀ (width : Nat) (parquetColumns : List (Option (Fin width))) (rowGroup : RowGroupMetaData F width)
          fieldIndex statistics,
        columnStatistics name schema parquetColumns rowGroup = some (fieldIndex, statistics) →
          fieldIndex.val = index) ↔
      ∀ index, schema.resolveFieldIndex name = .ok index →
        ∀ other, schema.calls name other → other = index ∨ index < other ∧ schema.calls name index := by
  refine forall_congr' fun index => imp_congr_right fun _ => ?_
  constructor
  · intro same other called
    obtain ⟨fieldIndex, statistics, earlier, found⟩ := exists_columnStatistics (F := F) called
    obtain rfl := same _ _ _ fieldIndex statistics found
    rcases Nat.lt_or_eq_of_le earlier with less | equal
    · exact .inr ⟨less, (columnStatistics_first found).1⟩
    · exact .inl equal.symm
  · intro only width parquetColumns rowGroup fieldIndex statistics found
    obtain ⟨called, before, _⟩ := columnStatistics_first found
    rcases only fieldIndex called with same | ⟨less, here⟩
    · exact same
    · exact absurd here (before index less)

theorem statistics_of_another_field :
    let schema : Schema := ⟨[⟨"A", .int64, true, .empty⟩, ⟨"a", .int64, true, .empty⟩], .empty⟩
    (schema.fields.map (·.name)).Nodup ∧ schema.resolveFieldIndex "a" = .ok 1 ∧
      ∃ statistics, columnStatistics "a" schema [some 0, some 0] (recordedEverywhere ℚ) =
        some (0, statistics) :=
  ⟨by decide, rfl, _, rfl⟩

def statistic (side : Side) (bounds : ColumnBounds F) (dataType : DataType) : Option (ScalarValue F) :=
  match bounds, dataType with
  | .boolean bounds, .boolean => (bounds.at side).map .boolean
  | .int32 bounds, .int32 => (bounds.at side).map fun value => .int64 value.widen
  | .int64 bounds, .int64 => (bounds.at side).map .int64
  | .float bounds, .float32 => (bounds.at side).map .float64
  | .double bounds, .float64 => (bounds.at side).map .float64
  | .byteArray bounds, .utf8 => ((bounds.at side).bind String.fromUTF8?).map .utf8
  | _, _ => none

def statisticMin : ColumnBounds F → DataType → Option (ScalarValue F) := statistic .min

def statisticMax : ColumnBounds F → DataType → Option (ScalarValue F) := statistic .max

def reverseComparison : Operator → Operator
  | .lt => .gt
  | .ltEq => .gtEq
  | .gt => .lt
  | .gtEq => .ltEq
  | other => other

variable [FloatOps F]

def boundsMayMatch (op : Operator) (literal : ScalarValue F) (dataType : DataType)
    (min max : Option (ScalarValue F)) : Bool :=
  match op with
  | .eq =>
    min.all (fun min => literal.partialCompare min ≠ some .lt) &&
      max.all (fun max => literal.partialCompare max ≠ some .gt)
  | .notEq =>
    if dataType = .float32 ∨ dataType = .float64 then true
    else !(min.any (· = literal) && max.any (· = literal))
  | .lt => !min.any fun min =>
    min.partialCompare literal = some .eq ∨ min.partialCompare literal = some .gt
  | .ltEq => min.all fun min => min.partialCompare literal ≠ some .gt
  | .gt => !max.any fun max =>
    max.partialCompare literal = some .eq ∨ max.partialCompare literal = some .lt
  | .gtEq => max.all fun max => max.partialCompare literal ≠ some .lt
  | _ => true

namespace Statistics

def ordered (statistics : Statistics F) : Bool :=
  !statistics.isMinMaxDeprecated || statistics.isMinMaxBackwardsCompatible

def min (statistics : Statistics F) (dataType : DataType) : Option (ScalarValue F) :=
  if statistics.ordered && statistics.minIsExact then statisticMin statistics.bounds dataType else none

def max (statistics : Statistics F) (dataType : DataType) : Option (ScalarValue F) :=
  if statistics.ordered && statistics.maxIsExact then statisticMax statistics.bounds dataType else none

end Statistics

section

variable (schema : Schema) (parquetColumns : List (Option (Fin width)))
  (rowGroup : RowGroupMetaData F width)

def columnLiteralMayMatch (name : String) (op : Operator) (literal : ScalarValue F) : Bool :=
  if literal = .null then false
  else match columnStatistics name schema parquetColumns rowGroup with
    | none => true
    | some (fieldIndex, statistics) =>
      let dataType := schema.fields[fieldIndex].dataType
      boundsMayMatch op literal dataType (statistics.min dataType) (statistics.max dataType)

def comparisonMayMatch (left : Expr F) (op : Operator) (right : Expr F) : Bool :=
  match left.unalias, right.unalias with
  | .column name, .literal value =>
    columnLiteralMayMatch schema parquetColumns rowGroup name op value
  | .literal value, .column name =>
    columnLiteralMayMatch schema parquetColumns rowGroup name (reverseComparison op) value
  | _, _ => true

def nullTestMayMatch (expr : Expr F) (negated : Bool) : Bool :=
  match expr.unalias with
  | .column name =>
    match columnStatistics name schema parquetColumns rowGroup with
    | none => true
    | some (fieldIndex, statistics) =>
      if !schema.fields[fieldIndex].nullable then negated
      else match statistics.nullCount with
        | some nulls =>
          if negated then nulls.val < (Max.max rowGroup.numRows 0).toNat else 0 < nulls.val
        | none => true
  | _ => true

def expressionMayMatch : Expr F → Bool
  | .literal (.boolean value) => value
  | .literal .null => false
  | .binary left op right =>
    match op with
    | .and => expressionMayMatch left && expressionMayMatch right
    | .or => expressionMayMatch left || expressionMayMatch right
    | .eq | .notEq | .lt | .ltEq | .gt | .gtEq =>
      comparisonMayMatch schema parquetColumns rowGroup left op right
    | .add | .subtract | .multiply | .divide => true
  | .isNull expr negated => nullTestMayMatch schema parquetColumns rowGroup expr negated
  -- `unalias` looks through one alias only.
  | .aliased (.aliased _ _) _ => true
  | .aliased expr _ => expressionMayMatch expr
  | _ => true

def rowGroupMayMatch (filters : List (Expr F)) : Bool :=
  filters.all (expressionMayMatch schema parquetColumns rowGroup)

end

end SparkX
