import SparkX.Cluster.Partial.Model

set_option autoImplicit false

namespace SparkX

variable {F : Type}

section

variable [FloatOps F]

def merger (types : List DataType) (entry : AggregateFunction × Nat) :
    Aggregator (MergeState F) (List (Value F)) Fault (ScalarValue F) where
  fresh := .new entry.1
  step state slots := state.update entry.1 entry.2 (valueInRow types slots)
  finish := MergeState.finish

def mergeRows (types : List DataType) (functions : List AggregateFunction)
    (rows : List (List (Value F))) : Except Fault (List (ScalarValue F)) :=
  (partialLayout 0 functions).mapM fun entry => (merger types entry).result rows

def splitRow (groupCount : Nat) (row : Row F) : EncodedKey F × List (Value F) :=
  (row.take groupCount, row.drop groupCount)

omit [FloatOps F] in
theorem partialLayout_functions (column : Nat) (functions : List AggregateFunction) :
    (partialLayout column functions).map (·.1) = functions := by
  induction functions generalizing column with
  | nil => rfl
  | cons function rest ih => rw [partialLayout, List.map_cons, ih]

theorem partialLayout_shift (shift column : Nat) (functions : List AggregateFunction) :
    partialLayout (shift + column) functions =
      (partialLayout column functions).map fun entry => (entry.1, shift + entry.2) := by
  induction functions generalizing column with
  | nil => rfl
  | cons function rest ih => rw [partialLayout, partialLayout, List.map_cons, Nat.add_assoc, ih]

omit [FloatOps F] in
theorem valueInRow_shift (types : List DataType) (row : Row F) (groupCount column : Nat) :
    valueInRow types row (groupCount + column) =
      valueInRow (types.drop groupCount) (row.drop groupCount) column := by
  simp only [valueInRow, List.getElem?_drop, List.getD_eq_getElem?_getD]

theorem MergeState.update_shift {shift : Nat} {value shifted : Nat → Except Fault (ScalarValue F)}
    (same : ∀ column, value (shift + column) = shifted column) (function : AggregateFunction)
    (state : MergeState F) (column : Nat) :
    state.update function (shift + column) value = state.update function column shifted := by
  cases function <;> cases state <;> simp only [update, same, Nat.add_assoc]

variable {groupCount : Nat}

omit [FloatOps F] in
theorem keySlice_ok {types : List DataType} {batch : RecordBatch F} {keys : List (EncodedKey F)} :
    (∃ columns, (List.range groupCount).mapM (fun index =>
          expect (batch.column index) "range end index out of range for slice") = .ok columns ∧
        RowKeyEncoder.encode ⟨types⟩ columns batch.numRows = .ok keys) ↔
      (groupCount ≤ batch.schema.fields.length ∧ batch.schema.types.take groupCount = types) ∧
        batch.rows.map (·.take groupCount) = keys := by
  have width : batch.schema.types.length = batch.schema.fields.length := List.length_map _
  have leading := @Rowwise.forall₂_range_take DataType DataType batch.schema.types groupCount types id
  rw [List.map_id, width, eq_comm (a := types)] at leading
  rw [selectedKeys_ok, ← leading]
  refine and_congr_right fun read => ?_
  have inside := (leading.mp read).1
  -- The rows are as wide as the schema, so all the leading columns are there.
  have keys : batch.rows.map (fun row => (List.range groupCount).map (row.getD · .null)) =
      batch.rows.map (·.take groupCount) := by
    refine List.map_congr_left fun row member => ?_
    have full : row.length = batch.schema.fields.length := (batch.typed row member).length_eq.symm
    refine List.ext_getElem (by simp [full, inside]) fun index first second => ?_
    have present : index < row.length := by simp at second; omega
    simp [List.getElem?_eq_getElem present]
  rw [keys]

theorem mergeRow_eq (groupCount : Nat) (functions : List AggregateFunction) (types : List DataType)
    (states : List (MergeState F)) (row : Row F) :
    mergeRow (partialLayout groupCount functions) types states row =
      Aggregator.stepAll (merger (types.drop groupCount)) (partialLayout 0 functions) states
        (row.drop groupCount) := by
  have shifted := partialLayout_shift groupCount 0 functions
  rw [Nat.add_zero] at shifted
  rw [mergeRow, shifted, List.zip_map_left, List.mapM_map, Aggregator.stepAll]
  refine congrArg (List.mapM · _) (funext fun entry => ?_)
  exact MergeState.update_shift (valueInRow_shift types row groupCount) ..

theorem mergeBatch_ok {functions : List AggregateFunction} {types : List DataType}
    {groups next : List (EncodedKey F × List (MergeState F))} {batch : RecordBatch F} :
    mergeBatch groupCount functions ⟨types⟩ groups batch = .ok next ↔
      (groupCount ≤ batch.schema.fields.length ∧ batch.schema.types.take groupCount = types) ∧
        (batch.rows.map (splitRow groupCount)).foldlM (Grouping.insert (functions.map .new)
          (Aggregator.stepAll (merger (batch.schema.types.drop groupCount)) (partialLayout 0 functions)))
          groups = .ok next := by
  have folded : ((batch.rows.map (·.take groupCount)).zip batch.rows).foldlM
        (Grouping.insert (functions.map .new)
          (mergeRow (partialLayout groupCount functions) batch.schema.types)) groups =
      (batch.rows.map (splitRow groupCount)).foldlM (Grouping.insert (functions.map .new)
        (Aggregator.stepAll (merger (batch.schema.types.drop groupCount)) (partialLayout 0 functions)))
        groups := by
    have paired : (batch.rows.map (·.take groupCount)).zip batch.rows =
        batch.rows.map fun row => (row.take groupCount, row) := by
      have zipped := @List.zip_map' _ _ _ (·.take groupCount) id batch.rows
      rwa [List.map_id] at zipped
    rw [paired, List.foldlM_map, List.foldlM_map]
    simp only [Grouping.insert, mergeRow_eq, splitRow]
    rfl
  have peeled : mergeBatch groupCount functions ⟨types⟩ groups batch = .ok next ↔
      ∃ keys, (∃ columns, (List.range groupCount).mapM (fun index =>
            expect (batch.column index) "range end index out of range for slice") = .ok columns ∧
          RowKeyEncoder.encode ⟨types⟩ columns batch.numRows = .ok keys) ∧
        (keys.zip batch.rows).foldlM (Grouping.insert (functions.map .new)
          (mergeRow (partialLayout groupCount functions) batch.schema.types)) groups = .ok next := by
    simp only [mergeBatch, bind_ok, lift_ok]
    grind
  simp only [peeled, keySlice_ok, ← folded]
  grind

theorem mergePartials_ok {batches : List (RecordBatch F)} {partialSchema schema : Schema}
    (uniform : ∀ batch ∈ batches, batch.schema = partialSchema) {aggregates : List (Expr F)}
    {output : RecordBatch F} :
    mergePartials batches groupCount aggregates schema = .ok output ↔
      ∃ functions found, aggregates.mapM aggregateFunction = .ok functions ∧
        (batches ≠ [] → groupCount ≤ partialSchema.fields.length ∧
          partialSchema.types.take groupCount = schema.types.take groupCount) ∧
        Grouping.results (mergeRows (partialSchema.types.drop groupCount) functions) (initialKeys groupCount)
          ((rowsOf batches).map (splitRow groupCount)) = .ok found ∧
        outputBatch groupCount functions.length schema found = .ok output := by
  have initial (functions : List AggregateFunction) : (if groupCount = 0 then
      [([], functions.map .new)] else [] : List (EncodedKey F × List (MergeState F))) =
      (initialKeys groupCount).map (·, functions.map .new) := by
    cases groupCount <;> rfl
  have groups_ok (functions : List AggregateFunction) (groups : List (EncodedKey F × List (MergeState F))) :
      batches.foldlM (mergeBatch groupCount functions ⟨schema.types.take groupCount⟩)
          (if groupCount = 0 then [([], functions.map .new)] else []) = .ok groups ↔
        (batches ≠ [] → groupCount ≤ partialSchema.fields.length ∧
            partialSchema.types.take groupCount = schema.types.take groupCount) ∧
          ((rowsOf batches).map (splitRow groupCount)).foldlM (Grouping.insert
            ((partialLayout 0 functions).map fun entry =>
              (merger (partialSchema.types.drop groupCount) entry).fresh)
            (Aggregator.stepAll (merger (partialSchema.types.drop groupCount)) (partialLayout 0 functions)))
            ((initialKeys groupCount).map (·, (partialLayout 0 functions).map fun entry =>
              (merger (partialSchema.types.drop groupCount) entry).fresh)) = .ok groups := by
    have checked : (batches ≠ [] → groupCount ≤ partialSchema.fields.length ∧
        partialSchema.types.take groupCount = schema.types.take groupCount) ↔
        ∀ batch ∈ batches, groupCount ≤ partialSchema.fields.length ∧
          partialSchema.types.take groupCount = schema.types.take groupCount :=
      ⟨fun all batch member => all (List.ne_nil_of_mem member), fun each nonempty =>
        (List.exists_mem_of_ne_nil batches nonempty).elim each⟩
    have fresh : functions.map (@MergeState.new F _) = (partialLayout 0 functions).map fun entry =>
        (merger (partialSchema.types.drop groupCount) entry).fresh := by
      conv_lhs => rw [← partialLayout_functions 0 functions, List.map_map]
      rfl
    have rows : (rowsOf batches).map (splitRow groupCount) =
        batches.flatMap fun batch => batch.rows.map (splitRow groupCount) := List.map_flatMap
    rw [checked, initial, rows, ← fresh]
    refine Rowwise.foldlM_parts fun batch member groups next => ?_
    rw [mergeBatch_ok, uniform batch member]
  have split : mergePartials batches groupCount aggregates schema = (do
      let functions ← (aggregates.mapM aggregateFunction : Except SparkXError _)
      let groups ← batches.foldlM (mergeBatch groupCount functions ⟨schema.types.take groupCount⟩)
        (if groupCount = 0 then [([], functions.map .new)] else [])
      outputBatch groupCount functions.length schema
        (groups.map fun entry => (entry.1, entry.2.map MergeState.finish))) := by
    simp only [outputBatch_map]
    rfl
  have finished (functions : List AggregateFunction) (found : List (EncodedKey F × List (ScalarValue F))) :=
    @Aggregator.foldlM_insert_result _ _ _ _ _ (merger (partialSchema.types.drop groupCount)) _ _
      MergeState.finish (fun _ => rfl) (partialLayout 0 functions) (initialKeys groupCount)
      ((rowsOf batches).map (splitRow groupCount)) found
  unfold mergeRows
  simp only [split, bind_ok, lift_ok, groups_ok, ← finished]
  grind

end

section

open ExactFloats

variable [FloatOps F]

def countMerger (F : Type) [FloatOps F] : Aggregator U64 (ScalarValue F) Fault (ScalarValue F) where
  fresh := 0
  step total value := do addCount total (← asU64 value)
  finish total := .uint64 total

theorem word_val (total : U64) : word total.val = total := Fin.ext (Nat.mod_eq_of_lt total.isLt)

def countMergeSummary (F : Type) [FloatOps F] :
    Summary (countMerger F) (fun value => ∃ count, value = .uint64 count) ℕ where
  weight
    | .uint64 count => some count.val
    | _ => none
  fits total := total < 2 ^ 64
  represents total state := state.val = total
  output total := .uint64 (word total)
  fits_zero := by decide
  fits_left fits := Nat.lt_of_le_of_lt (Nat.le_add_right _ _) fits
  represents_fresh := rfl
  finish_eq {total state} represented := by
    rw [← represented, word_val]
    rfl
  step_ok {total state value next} represented allowed stepped := by
    obtain ⟨count, rfl⟩ := allowed
    subst represented
    have sum : next.val = state.val + count.val := Word.checkedAdd_eq_some.mp (expect_ok.mp stepped)
    exact ⟨_, rfl, sum ▸ next.isLt, sum⟩
  step_total {total state value added} represented allowed weighed fits := by
    obtain ⟨count, rfl⟩ := allowed
    subst represented
    cases weighed
    exact ⟨⟨_, fits⟩, expect_ok.mpr (Word.checkedAdd_eq_some.mpr rfl)⟩

variable {value : ScalarValue F}

theorem asF64_eq (present : value ≠ .null) {found : F} :
    asF64 value = .ok found ↔ numericValue value = .ok found := by
  cases value with
  | null => exact absurd rfl present
  | int64 | uint64 | float64 => rfl
  | boolean | utf8 => simp [asF64, numericValue]

def sumMerger (F : Type) [FloatOps F] : Aggregator (F × Bool) (ScalarValue F) Fault (ScalarValue F) where
  fresh := (FloatOps.ofInt 0, false)
  step state value :=
    if value = .null then .ok state
    else do return (FloatOps.add state.1 (← asF64 value), true)
  finish state := if state.2 then .float64 state.1 else .null

variable [ExactFloats F]

def sumMergeSummary (F : Type) [FloatOps F] [ExactFloats F] :
    Summary (sumMerger F) (fun _ => True) (WithZero ℚ) where
  weight := numberOf
  fits _ := True
  represents total state := SumOf total 0 state.1 state.2
  output := sumScalar
  fits_zero := trivial
  fits_left _ := trivial
  represents_fresh := .inl ⟨rfl, rfl, rfl, by rw [sumMerger, number_ofInt]; rfl⟩
  finish_eq {total state} represented := by
    obtain ⟨value, seen⟩ := state
    obtain ⟨rfl, rfl, _⟩ | ⟨rfl, rfl⟩ := represented
    · rfl
    · change ScalarValue.float64 value = .float64 (number.symm (number value + (0 : Int)))
      rw [Int.cast_zero, add_zero, Equiv.symm_apply_apply]
  step_ok {total state value next} represented _ stepped := by
    by_cases absent : value = .null
    · subst absent
      obtain rfl : state = next := Except.ok.inj stepped
      exact ⟨0, rfl, trivial, (add_zero total).symm ▸ represented⟩
    · simp only [sumMerger, absent, if_false, bind_ok, lift_ok, pure_eq_ok, asF64_eq absent] at stepped
      obtain ⟨found, numeric, rfl⟩ := stepped
      obtain ⟨added, weighed, same⟩ := (numericValue_ok absent).1 found numeric
      refine ⟨added, weighed, trivial, ?_⟩
      rw [numberOf_present absent weighed]
      refine represented.add _ ?_
      rw [number_add, same, Int.cast_zero, add_zero, add_zero]
  step_total {total state value added} represented _ weighed _ := by
    by_cases absent : value = .null
    · subst absent
      exact ⟨_, rfl⟩
    · obtain ⟨found, numeric⟩ := (numericValue_ok absent).2 added weighed
      simp only [sumMerger, absent, if_false, bind_ok, lift_ok, pure_eq_ok, asF64_eq absent]
      exact ⟨_, found, numeric, rfl⟩

theorem asF64_ok :
    (∀ found, asF64 value = .ok found → ∃ added, numberOf value = some added ∧ number found = sumNumber added) ∧
      ∀ added, numberOf value = some added → ∃ found, asF64 value = .ok found := by
  by_cases absent : value = .null
  · subst absent
    exact ⟨fun found same => ⟨0, rfl, Except.ok.inj same ▸ number_ofInt 0⟩, fun _ _ => ⟨_, rfl⟩⟩
  · simpa only [asF64_eq absent] using numericValue_ok absent

def extremeMerger (F : Type) [FloatOps F] (wanted : Ordering) :
    Aggregator (Option (ScalarValue F)) (ScalarValue F) Fault (ScalarValue F) where
  fresh := none
  step current value := mergeExtreme wanted current value
  finish current := current.getD .null

omit [ExactFloats F] in
theorem mergeExtreme_ok {wanted : Ordering} {current next : Option (ScalarValue F)} :
    mergeExtreme wanted current value = .ok next ↔ updateExtreme wanted current value = .ok next := by
  by_cases absent : value = .null
  next => simp [mergeExtreme, updateExtreme, shouldReplaceExtreme, absent]
  next =>
    cases current with
    | none => simp [mergeExtreme, updateExtreme, shouldReplaceExtreme, absent]
    | some known =>
      cases compared : value.partialCompare known <;>
        simp [mergeExtreme, updateExtreme, shouldReplaceExtreme, absent, compared]

def extremeMergeSummary (F : Type) [FloatOps F] [ExactFloats F] {wanted : Ordering} (proper : wanted ≠ .eq)
    (dataType : DataType) :
    Summary (extremeMerger F wanted) (ScalarValue.Fits dataType) (Extreme wanted F) :=
  (extremeSummary F proper dataType).embed id rfl (fun _ => rfl) fun current value next => by
    rw [extremeMerger, lift_ok, mergeExtreme_ok]
    exact ⟨fun updated => ⟨next, updated, rfl⟩, by rintro ⟨_, updated, rfl⟩; exact updated⟩

def averageMerger (F : Type) [FloatOps F] :
    Aggregator (F × U64) (ScalarValue F × ScalarValue F) Fault (ScalarValue F) where
  fresh := (FloatOps.ofInt 0, 0)
  step state value := do
    let total := FloatOps.add state.1 (← asF64 value.1)
    return (total, ← addCount state.2 (← asU64 value.2))
  finish state := if state.2 = 0 then .null else .float64 (FloatOps.div state.1 (FloatOps.ofInt state.2.val))

def averageMergeSummary (F : Type) [FloatOps F] [ExactFloats F] :
    Summary (averageMerger F) (fun value => ∃ count, value.2 = .uint64 count) (WithZero ℚ × ℕ) where
  weight value := do return (← numberOf value.1, ← (countMergeSummary F).weight value.2)
  fits total := total.2 < 2 ^ 64
  represents total state := number state.1 = sumNumber total.1 ∧ state.2.val = total.2
  output := averageScalar
  fits_zero := by decide
  fits_left {total added} fits := by
    have : (total + added).2 = total.2 + added.2 := rfl
    omega
  represents_fresh := ⟨number_ofInt 0, rfl⟩
  finish_eq {total state} represented := by
    obtain ⟨sum, count⟩ := represented
    rw [averageScalar, ← sum, Equiv.symm_apply_apply, ← count, word_val]
    rfl
  step_ok {total state value next} represented allowed stepped := by
    obtain ⟨count, counted⟩ := allowed
    obtain ⟨sum, known⟩ := represented
    simp only [averageMerger, bind_ok, lift_ok, pure_eq_ok, counted, asU64] at stepped
    obtain ⟨found, numeric, _, ⟨⟩, grown, added, rfl⟩ := stepped
    have size : grown.val = total.2 + count.val := known ▸ Word.checkedAdd_eq_some.mp (expect_ok.mp added)
    obtain ⟨weight, weighed, same⟩ := asF64_ok.1 found numeric
    refine ⟨(weight, count.val), ?_, ?_, ?_, ?_⟩
    · rw [weighed, counted]
      rfl
    · exact size.symm.trans_lt grown.isLt
    · rw [number_add, sum, same, ← sumNumber_add]
      rfl
    · exact size
  step_total {total state value added} represented allowed weighed fits := by
    obtain ⟨count, counted⟩ := allowed
    obtain ⟨sum, known⟩ := represented
    obtain ⟨weight, heavy, rfl⟩ : ∃ weight, numberOf value.1 = some weight ∧ (weight, count.val) = added := by
      rw [counted] at weighed
      simpa [countMergeSummary, Option.bind_eq_some_iff] using weighed
    obtain ⟨found, numeric⟩ := asF64_ok.2 weight heavy
    have room : state.2.val + count.val < 2 ^ 64 := known ▸ fits
    have sum : addCount state.2 count = .ok ⟨_, room⟩ := expect_ok.mpr (Word.checkedAdd_eq_some.mpr rfl)
    simp only [averageMerger, bind_ok, lift_ok, pure_eq_ok, counted, asU64]
    exact ⟨_, found, numeric, count, rfl, _, sum, rfl⟩

-- The same on partial rows, where the merger reads its columns.

section

variable (types : List DataType) (column : Nat)

def Holds (property : ScalarValue F → Prop) (slots : List (Value F)) : Prop :=
  ∀ value, valueInRow types slots column = .ok value → property value

def valuePair (slots : List (Value F)) : Except Fault (ScalarValue F × ScalarValue F) := do
  let first ← valueInRow types slots column
  let second ← valueInRow types slots (column + 1)
  return (first, second)

def countSlots : Summary (merger types (.count, column))
    (Holds types column fun value : ScalarValue F => ∃ count, value = .uint64 count) ℕ :=
  ((countMergeSummary F).comap (valueInRow types · column)).embed .count rfl (fun _ => rfl)
    fun total slots next => by
      simp only [merger, MergeState.update, Aggregator.comap, countMerger, bind_ok, pure_eq_ok]
      grind

def sumSlots : Summary (merger types (.sum, column)) (Holds types column fun _ : ScalarValue F => True)
    (WithZero ℚ) :=
  ((sumMergeSummary F).comap (valueInRow types · column)).embed (fun state => .sum state.1 state.2) rfl
    (fun _ => rfl) fun state slots next => by
      have taken (value : ScalarValue F) : (if value = .null then pure (.sum state.1 state.2)
            else do return .sum (FloatOps.add state.1 (← asF64 value)) true : Except Fault (MergeState F)) =
            .ok next ↔ ∃ inner, (sumMerger F).step state value = .ok inner ∧ .sum inner.1 inner.2 = next := by
        by_cases absent : value = .null <;>
          simp only [sumMerger, absent, if_true, if_false, bind_ok, pure_eq_ok, Except.ok.injEq]
        all_goals grind
      simp only [merger, MergeState.update, Aggregator.comap, bind_ok, taken]
      grind

def minSlots (dataType : DataType) : Summary (merger types (.min, column))
    (Holds types column (@ScalarValue.Fits F dataType)) (Extreme .lt F) :=
  ((extremeMergeSummary F lt_proper dataType).comap (valueInRow types · column)).embed .min rfl
    (fun _ => rfl) fun state slots next => by
      simp only [merger, MergeState.update, Aggregator.comap, extremeMerger, bind_ok, pure_eq_ok]
      grind

def maxSlots (dataType : DataType) : Summary (merger types (.max, column))
    (Holds types column (@ScalarValue.Fits F dataType)) (Extreme .gt F) :=
  ((extremeMergeSummary F gt_proper dataType).comap (valueInRow types · column)).embed .max rfl
    (fun _ => rfl) fun state slots next => by
      simp only [merger, MergeState.update, Aggregator.comap, extremeMerger, bind_ok, pure_eq_ok]
      grind

def averageSlots : Summary (merger types (.avg, column))
    (fun slots : List (Value F) => ∀ pair, valuePair types column slots = .ok pair →
      ∃ count, pair.2 = .uint64 count) (WithZero ℚ × ℕ) :=
  ((averageMergeSummary F).comap (valuePair types column)).embed (fun state => .avg state.1 state.2) rfl
    (fun _ => rfl) fun state slots next => by
      simp only [merger, MergeState.update, Aggregator.comap, averageMerger, valuePair, bind_ok, pure_eq_ok]
      grind

end

end

end SparkX
