import SparkX.Query.Expr

set_option autoImplicit false

namespace SparkX

open Rowwise

variable {F : Type} [ArrowKernels F]

-- What Arrow's documentation says about casts that lose nothing.
structure ArrowKernels.KeepsValues (F : Type) [ArrowKernels F] : Prop where
  null : ∀ source target, ArrowKernels.castValue source target (.null : Value F) = .null
  self : ∀ dataType (value : Value F), value.hasType dataType = true →
    ArrowKernels.castValue dataType dataType value = value
  widen : ∀ value : I32, ArrowKernels.castValue .int32 .int64 (.int32 value : Value F) = .int64 value.widen

namespace Operator

def resultType (F : Type) [ArrowKernels F] (op : Operator) (left right : DataType) :
    Option DataType :=
  if left = .null ∧ right = .null then
    if op.isArithmetic then none else some .boolean
  else if left = right then (op.outputType F left).toOption
  else do
    let target ← op.targetType left right
    if ArrowKernels.canCast F left target && ArrowKernels.canCast F right target then
      (op.outputType F target).toOption
    else none

def result (op : Operator) (leftType rightType : DataType) (left right : Value F) :
    Option (Value F) :=
  if leftType = .null ∧ rightType = .null then some .null
  else if leftType = rightType then (op.apply leftType left right).toOption
  else do
    let target ← op.targetType leftType rightType
    (op.apply target (ArrowKernels.castValue leftType target left)
      (ArrowKernels.castValue rightType target right)).toOption

end Operator

namespace Expr

def typeIn (schema : Schema) : Expr F → Option DataType
  | .column name => do schema.types[← (schema.resolveFieldIndex name).toOption]?
  | .literal value => some value.dataType
  | .binary left op right => do op.resultType F (← left.typeIn schema) (← right.typeIn schema)
  | .isNull expr _ => (expr.typeIn schema).map fun _ => .boolean
  | .cast expr dataType => do
    if ArrowKernels.canCast F (← expr.typeIn schema) dataType then some dataType else none
  | .aliased (.aliased _ _) _ => none
  | .aliased expr _ => expr.typeIn schema
  | .aggregate _ _ _ | .wildcard => none

def valueIn (schema : Schema) : Expr F → List (Value F) → Option (Value F)
  | .column name, row => do row.getD (← (schema.resolveFieldIndex name).toOption) .null
  | .literal value, _ => some value.toValue
  | .binary left op right, row => do
    op.result (← left.typeIn schema) (← right.typeIn schema) (← left.valueIn schema row)
      (← right.valueIn schema row)
  | .isNull expr negated, row =>
    (expr.valueIn schema row).map fun value => .boolean (value.isNull != negated)
  | .cast expr dataType, row => do
    return ArrowKernels.castValue (← expr.typeIn schema) dataType (← expr.valueIn schema row)
  | .aliased (.aliased _ _) _, _ => none
  | .aliased expr _, row => expr.valueIn schema row
  | .aggregate _ _ _, _ | .wildcard, _ => none

end Expr

namespace Operator

theorem toOption_eq_some {ε α : Type} {result : Except ε α} {value : α} :
    result.toOption = some value ↔ result = .ok value := by
  cases result <;> simp [Except.toOption]

variable {op : Operator} {left right array : ArrayRef F}

theorem kernel_eq_ok :
    op.kernel left right = .ok array ↔ op.outputType F left.dataType = .ok array.dataType ∧
      List.Forall₂ (fun pair value => op.apply left.dataType pair.1 pair.2 = .ok value)
        (left.values.zip right.values) array.values := by
  rw [← mapM_ok]
  unfold kernel
  split
  next error known => simp [known]
  next output known =>
    split
    next error applied => simp [applied]
    next values applied => simp [known, applied, ArrayRef.ext_iff]

theorem cast_eq_ok {cast : ArrayRef F} {target : DataType} :
    array.cast target = .ok cast ↔
      ArrowKernels.canCast F array.dataType target = true ∧ array.castSlots target = cast := by
  rw [ArrayRef.cast, check_ok, rejectIf_ok]
  simp [pure, Except.pure]

theorem kernel_cast_eq_ok {target : DataType} :
    (do op.kernel (← left.cast target) (← right.cast target)) = .ok array ↔
      (ArrowKernels.canCast F left.dataType target = true ∧
        ArrowKernels.canCast F right.dataType target = true) ∧
        op.kernel (left.castSlots target) (right.castSlots target) = .ok array := by
  simp only [bind_ok, cast_eq_ok]
  constructor
  · rintro ⟨_, ⟨first, rfl⟩, _, ⟨second, rfl⟩, applied⟩
    exact ⟨⟨first, second⟩, applied⟩
  · rintro ⟨⟨first, second⟩, applied⟩
    exact ⟨_, ⟨first, rfl⟩, _, ⟨second, rfl⟩, applied⟩

theorem combine_eq_ok {numRows : Nat} (leftLength : left.length = numRows)
    (rightLength : right.length = numRows) :
    op.combine left right numRows = .ok array ↔
      op.resultType F left.dataType right.dataType = some array.dataType ∧
      List.Forall₂ (fun pair value =>
          op.result left.dataType right.dataType pair.1 pair.2 = some value)
        (left.values.zip right.values) array.values := by
  unfold combine resultType result
  split
  next untyped =>
    split
    next arithmetic => simp
    next other =>
      have length : (left.values.zip right.values).length = numRows := by
        rw [List.length_zip]
        exact (congrArg₂ min leftLength rightLength).trans (Nat.min_self numRows)
      simp only [Option.some.injEq, forall₂_eq, List.map_const', length, Except.ok.injEq,
        ArrayRef.ext_iff, ArrayRef.booleans, List.map_replicate, Value.ofBool]
      exact and_congr Iff.rfl eq_comm
  next typed =>
    split
    next same => simp only [toOption_eq_some, kernel_eq_ok]
    next different =>
      cases op.targetType left.dataType right.dataType with
      | none => simp [okOr, bind, Except.bind]
      | some target =>
        change (do op.kernel (← left.cast target) (← right.cast target)) = .ok array ↔ _
        rw [kernel_cast_eq_ok, kernel_eq_ok]
        simp only [Option.bind_eq_bind, Option.bind_some, ArrayRef.castSlots, List.zip_map,
          List.forall₂_map_left_iff, Prod.map_fst, Prod.map_snd, toOption_eq_some,
          ← Bool.and_eq_true]
        split
        next castable => simp only [castable, true_and, toOption_eq_some]
        next refused => simp only [refused, false_and, reduceCtorEq]

end Operator

variable {dataType : DataType}

namespace Expr

theorem hasType_result {op : Operator} {leftType rightType output : DataType}
    {left right value : Value F} (known : op.resultType F leftType rightType = some output)
    (leftTyped : left.hasType leftType = true)
    (found : op.result leftType rightType left right = some value) : value.hasType output = true := by
  unfold Operator.resultType at known
  unfold Operator.result at found
  split at known
  next untyped =>
    rw [if_pos untyped] at found
    cases found
    exact Value.hasType_null output
  next typed =>
    rw [if_neg typed] at found
    split at known
    next same =>
      rw [if_pos same] at found
      exact Operator.hasType_apply (Operator.toOption_eq_some.mp known) leftTyped
        (Operator.toOption_eq_some.mp found)
    next different =>
      rw [if_neg different] at found
      obtain ⟨target, targeted, rest⟩ := Option.bind_eq_some_iff.mp known
      obtain ⟨_, same, applied⟩ := Option.bind_eq_some_iff.mp found
      obtain rfl := Option.some.inj (targeted.symm.trans same)
      split at rest
      · exact Operator.hasType_apply (Operator.toOption_eq_some.mp rest)
          (ArrowKernels.hasType_castValue _ _ _) (Operator.toOption_eq_some.mp applied)
      · cases rest

theorem hasType_valueIn {expr : Expr F} {schema : Schema} {row : List (Value F)} {value : Value F}
    (admitted : schema.admits row) (typed : expr.typeIn schema = some dataType)
    (found : expr.valueIn schema row = some value) : value.hasType dataType = true := by
  induction expr generalizing dataType value with
  | column name =>
    obtain ⟨index, resolved, known⟩ := Option.bind_eq_some_iff.mp typed
    obtain ⟨_, same, here⟩ := Option.bind_eq_some_iff.mp found
    obtain rfl := Option.some.inj (resolved.symm.trans same)
    cases here
    rw [Schema.types, List.getElem?_map] at known
    obtain ⟨field, present, rfl⟩ := Option.map_eq_some_iff.mp known
    exact (Schema.admits_slot admitted present).1
  | literal scalar =>
    cases typed
    cases found
    exact scalar.hasType_toValue
  | binary left op right leftIh rightIh =>
    simp only [typeIn, valueIn, Option.bind_eq_bind, Option.bind_eq_some_iff] at typed found
    obtain ⟨leftType, leftTyped, rightType, rightTyped, known⟩ := typed
    obtain ⟨_, leftSame, _, rightSame, leftValue, leftFound, rightValue, rightFound, result⟩ := found
    obtain rfl := Option.some.inj (leftTyped.symm.trans leftSame)
    obtain rfl := Option.some.inj (rightTyped.symm.trans rightSame)
    exact hasType_result known (leftIh leftTyped leftFound) result
  | isNull expr negated ih =>
    obtain ⟨_, _, rfl⟩ := Option.map_eq_some_iff.mp typed
    obtain ⟨_, _, rfl⟩ := Option.map_eq_some_iff.mp found
    rfl
  | cast expr target ih =>
    simp only [typeIn, valueIn, Option.bind_eq_bind, Option.bind_eq_some_iff] at typed found
    obtain ⟨source, _, castable⟩ := typed
    obtain ⟨_, _, old, _, result⟩ := found
    split at castable
    · cases castable
      cases result
      exact ArrowKernels.hasType_castValue _ _ _
    · cases castable
  | aliased expr name ih =>
    cases expr with
    | aliased inner other => cases typed
    | _ => exact ih typed found
  | aggregate function expr distinct ih => cases typed
  | wildcard => cases typed

end Expr

variable {expr : Expr F} {batch : RecordBatch F}

theorem exists_array {values : List (Value F)} (typed : expr.typeIn batch.schema = some dataType)
    (pointwise : List.Forall₂ (fun row value => expr.valueIn batch.schema row = some value)
      batch.rows values) : ∃ array : ArrayRef F, array.dataType = dataType ∧ array.values = values := by
  refine ⟨⟨dataType, values, ?_⟩, rfl, rfl⟩
  intro value member
  obtain ⟨row, inside, found⟩ := forall₂_mem pointwise member
  exact Expr.hasType_valueIn (batch.typed row inside) typed found

theorem evaluate_eq_ok {array : ArrayRef F} :
    evaluate expr batch = .ok array ↔ expr.typeIn batch.schema = some array.dataType ∧
        List.Forall₂ (fun row value => expr.valueIn batch.schema row = some value)
          batch.rows array.values := by
  induction expr generalizing array with
  | column name =>
    simp only [evaluate, Expr.typeIn, Expr.valueIn]
    cases resolved : batch.schema.resolveFieldIndex name with
    | error error =>
      constructor
      · intro evaluated
        cases evaluated
      · rintro ⟨typed, _⟩
        cases typed
    | ok index =>
      change expect (batch.column index) "index out of bounds" = .ok array ↔
        batch.schema.types[index]? = some array.dataType ∧
          List.Forall₂ (fun (row : List (Value F)) value => some (row.getD index .null) = some value)
            batch.rows array.values
      rw [expect_ok, RecordBatch.column_eq_some]
      simp only [Option.some.injEq, forall₂_eq]
  | literal value =>
    simp only [evaluate, Expr.typeIn, Expr.valueIn, ArrayRef.scalarArray, Except.ok.injEq,
      Option.some.injEq, ArrayRef.ext_iff, forall₂_eq, List.map_const', RecordBatch.numRows]
    exact and_congr Iff.rfl eq_comm
  | binary left op right leftIh rightIh =>
    simp only [evaluate, bind_ok, lift_ok, leftIh, rightIh]
    constructor
    · rintro ⟨leftArray, ⟨leftTyped, leftRows⟩, rightArray, ⟨rightTyped, rightRows⟩, combined⟩
      obtain ⟨typed, pointwise⟩ :=
        (Operator.combine_eq_ok leftRows.length_eq.symm rightRows.length_eq.symm).mp combined
      refine ⟨by simpa [Expr.typeIn, leftTyped, rightTyped] using typed, ?_⟩
      have joined := (forall₂_zip _).mpr ⟨_, _, leftRows, rightRows, pointwise⟩
      refine joined.imp fun row value found => ?_
      obtain ⟨leftValue, rightValue, leftFound, rightFound, result⟩ := found
      simpa [Expr.valueIn, leftTyped, rightTyped, leftFound, rightFound] using result
    · rintro ⟨typed, pointwise⟩
      simp only [Expr.typeIn, Option.bind_eq_bind, Option.bind_eq_some_iff] at typed
      obtain ⟨leftType, leftTyped, rightType, rightTyped, known⟩ := typed
      have joined : List.Forall₂ (fun row value => ∃ leftValue rightValue,
          left.valueIn batch.schema row = some leftValue ∧
          right.valueIn batch.schema row = some rightValue ∧
          op.result leftType rightType leftValue rightValue = some value) batch.rows array.values := by
        refine pointwise.imp fun row value found => ?_
        simpa [Expr.valueIn, leftTyped, rightTyped, Option.bind_eq_some_iff] using found
      obtain ⟨lefts, rights, leftRows, rightRows, results⟩ := (forall₂_zip
        fun pair value => op.result leftType rightType pair.1 pair.2 = some value).mp joined
      obtain ⟨leftArray, rfl, rfl⟩ := exists_array leftTyped leftRows
      obtain ⟨rightArray, rfl, rfl⟩ := exists_array rightTyped rightRows
      refine ⟨leftArray, ⟨leftTyped, leftRows⟩, rightArray, ⟨rightTyped, rightRows⟩, ?_⟩
      exact (Operator.combine_eq_ok leftRows.length_eq.symm rightRows.length_eq.symm).mpr ⟨known, results⟩
  | isNull expr negated ih =>
    simp only [evaluate, bind_ok, ih, Expr.typeIn, Expr.valueIn, Option.map_eq_some_iff, forall₂_map]
    constructor
    · rintro ⟨inner, ⟨typed, pointwise⟩, same⟩
      cases same
      exact ⟨⟨_, typed, rfl⟩, inner.values, pointwise, by simp [ArrayRef.booleans, Value.ofBool]⟩
    · rintro ⟨⟨dataType, typed, boolean⟩, values, pointwise, same⟩
      obtain ⟨inner, rfl, rfl⟩ := exists_array typed pointwise
      refine ⟨inner, ⟨typed, pointwise⟩, congrArg Except.ok (ArrayRef.ext boolean ?_)⟩
      simp [ArrayRef.booleans, Value.ofBool, ← same]
  | cast expr target ih =>
    simp only [evaluate, bind_ok, lift_ok, ih, Operator.cast_eq_ok, Expr.typeIn,
      Option.bind_eq_bind, Option.bind_eq_some_iff]
    constructor
    · rintro ⟨inner, ⟨typed, pointwise⟩, castable, rfl⟩
      refine ⟨⟨_, typed, if_pos castable⟩, List.forall₂_map_right_iff.mpr ?_⟩
      refine pointwise.imp fun row value found => ?_
      simp [Expr.valueIn, typed, found]
    · rintro ⟨⟨source, typed, known⟩, pointwise⟩
      have castable : ArrowKernels.canCast F source target = true := by
        by_contra refused
        rw [if_neg refused] at known
        cases known
      rw [if_pos castable] at known
      have joined : List.Forall₂ (fun row value => ∃ old, expr.valueIn batch.schema row = some old ∧
          ArrowKernels.castValue source target old = value) batch.rows array.values := by
        refine pointwise.imp fun row value found => ?_
        simpa [Expr.valueIn, typed, Option.bind_eq_some_iff] using found
      obtain ⟨values, found, same⟩ := forall₂_map.mp joined
      obtain ⟨inner, rfl, rfl⟩ := exists_array typed found
      exact ⟨inner, ⟨typed, found⟩, castable, ArrayRef.ext (Option.some.inj known) same⟩
  | aliased expr name ih =>
    cases expr with
    | aliased inner other => simp [evaluate, Expr.typeIn]
    | _ => exact ih
  | aggregate function expr distinct ih | wildcard => simp [evaluate, Expr.typeIn]

theorem exists_evaluate :
    (∃ array, evaluate expr batch = .ok array ∧ array.dataType = dataType) ↔
      expr.typeIn batch.schema = some dataType ∧
        ∀ row ∈ batch.rows, ∃ value, expr.valueIn batch.schema row = some value := by
  constructor
  · rintro ⟨array, evaluated, rfl⟩
    obtain ⟨typed, pointwise⟩ := evaluate_eq_ok.mp evaluated
    refine ⟨typed, fun row member => ?_⟩
    obtain ⟨value, _, found⟩ := forall₂_item pointwise member
    exact ⟨value, found⟩
  · rintro ⟨typed, each⟩
    obtain ⟨values, pointwise⟩ := forall₂_exists each
    obtain ⟨array, rfl, rfl⟩ := exists_array typed pointwise
    exact ⟨array, evaluate_eq_ok.mpr ⟨typed, pointwise⟩, rfl⟩

namespace Expr

end Expr

theorem exact_keepsValues : ArrowKernels.KeepsValues ℚ where
  null source target := by simp [ArrowKernels.castValue, castExact]
  self dataType value typed := by
    have unsigned {w : Nat} (number : Word w) :
        (if (number.val : Int) < 0 then none else Word.tryFrom (number.val : Int).toNat) = some number := by
      rw [if_neg (by omega), Int.toNat_natCast]
      exact Word.tryFrom_eq_some.mpr rfl
    cases value with
    | null => simp [ArrowKernels.castValue, castExact]
    | boolean _ | utf8 _ | other _ => exact if_pos typed
    | float32 number | float64 number =>
      cases dataType <;> cases typed
      rfl
    | int32 number | int64 number =>
      cases dataType <;> cases typed
      exact congrArg (Option.elim · _ _) (Signed.tryFrom_value number)
    | uint32 number | uint64 number =>
      cases dataType <;> cases typed
      exact congrArg (Option.elim · _ _) (unsigned number)
  widen number := congrArg (Option.elim · _ _) (Signed.tryFrom_value number.widen)

end SparkX
