import SparkX.Runtime.Exact
import SparkX.Shared.Summary

set_option autoImplicit false

namespace SparkX

open ExactFloats

variable {F : Type} [FloatOps F]

def AggregateFunction.aggregator (F : Type) [FloatOps F] (function : AggregateFunction) :
    Aggregator (AggregateState F) (ScalarValue F) SparkXError (ScalarValue F) where
  fresh := .new function false
  step := AggregateState.update
  finish := AggregateState.finish

def word (count : ℕ) : U64 := Fin.ofNat _ count

theorem word_add_one (count : ℕ) : word count + 1 = word (count + 1) := by
  apply Fin.ext
  simp [word, Fin.val_add]

def countOf (value : ScalarValue F) : ℕ := if value = .null then 0 else 1

def countSummary (F : Type) [FloatOps F] :
    Summary (AggregateFunction.aggregator F .count) (fun _ => True) ℕ where
  weight value := some (countOf value)
  fits _ := True
  represents total state := state = .count (word total) none
  output total := .uint64 (word total)
  fits_zero := trivial
  fits_left _ := trivial
  represents_fresh := rfl
  finish_eq represented := by
    rw [represented]
    rfl
  step_ok {total state value next} represented _ stepped := by
    subst represented
    refine ⟨_, rfl, trivial, ?_⟩
    by_cases absent : value = .null
    · simp [AggregateFunction.aggregator, AggregateState.update, countOf, absent] at stepped ⊢
      exact stepped.symm
    · simp [AggregateFunction.aggregator, AggregateState.update, countOf, absent, insertDistinct] at stepped ⊢
      rw [← stepped, word_add_one]
  step_total {total state value added} represented _ _ _ := by
    subst represented
    by_cases absent : value = .null <;>
      simp [AggregateFunction.aggregator, AggregateState.update, absent, insertDistinct]

variable {left right : ScalarValue F} {wanted : Ordering}

section

variable [OrderedFloats F]

theorem ScalarValue.toValue_injective {F : Type} : Function.Injective (ScalarValue.toValue : ScalarValue F → Value F) := by
  intro left right same
  cases left <;> cases right <;> simp [ScalarValue.toValue] at same ⊢ <;> exact same

theorem ScalarValue.partialCompare_rank (same : left.dataType = right.dataType)
    (floats : left.dataType = .float64 →
      left.partialCompare right = some (left.toValue.compare right.toValue)) :
    left.partialCompare right = some (order left.toValue.rank right.toValue.rank) := by
  have typed : left.partialCompare right = some (left.toValue.compare right.toValue) := by
    cases left <;> cases right <;> first | cases same
    case float64.float64 => exact floats rfl
    all_goals rfl
  rw [typed, Value.compare_eq_rank left.hasType_toValue (same ▸ right.hasType_toValue)]

def Ranked (_wanted : Ordering) (F : Type) := ScalarValue F

def Ranked.of (wanted : Ordering) (value : ScalarValue F) : Ranked wanted F := value

theorem rank_toValue_injective : Function.Injective fun value : ScalarValue F => value.toValue.rank :=
  Value.rank_injective.comp ScalarValue.toValue_injective

instance (wanted : Ordering) : LinearOrder (Ranked wanted F) :=
  match wanted with
  | .gt => LinearOrder.lift' (fun value : ScalarValue F => OrderDual.toDual value.toValue.rank)
      rank_toValue_injective
  | _ => LinearOrder.lift' (fun value : ScalarValue F => value.toValue.rank) rank_toValue_injective

theorem Ranked.lt_iff (proper : wanted ≠ .eq)
    (compares : left.partialCompare right = some (order left.toValue.rank right.toValue.rank)) :
    left.partialCompare right = some wanted ↔ Ranked.of wanted left < Ranked.of wanted right := by
  rw [compares, Option.some.injEq]
  cases wanted with
  | lt =>
    have ranked : Ranked.of .lt left < Ranked.of .lt right ↔ left.toValue.rank < right.toValue.rank := Iff.rfl
    rw [ranked, order_eq_lt]
  | eq => exact absurd rfl proper
  | gt =>
    have ranked : Ranked.of .gt left < Ranked.of .gt right ↔ right.toValue.rank < left.toValue.rank := Iff.rfl
    rw [ranked, order_eq_gt]

end

variable [ExactFloats F]

def numberOf : ScalarValue F → Option (WithZero ℚ)
  | .null => some 0
  | .int64 value => some ((value.value : ℚ) : WithZero ℚ)
  | .uint64 value => some ((value.val : ℚ) : WithZero ℚ)
  | .float64 value => some ((number value : ℚ) : WithZero ℚ)
  | _ => none

def sumScalar (total : WithZero ℚ) : ScalarValue F :=
  total.recZeroCoe .null fun value => .float64 (number.symm value)

def SumOf (total : WithZero ℚ) (intSum : Int) (floatSum : F) (seen : Bool) : Prop :=
  seen = false ∧ total = 0 ∧ intSum = 0 ∧ number floatSum = 0 ∨
    seen = true ∧ total = ((number floatSum + intSum : ℚ) : WithZero ℚ)

theorem SumOf.add {total : WithZero ℚ} {intSum intNext : Int} {floatSum floatNext : F} {seen : Bool}
    (known : SumOf total intSum floatSum seen) (value : ℚ)
    (grown : number floatNext + intNext = number floatSum + intSum + value) :
    SumOf (total + (value : WithZero ℚ)) intNext floatNext true := by
  refine .inr ⟨rfl, ?_⟩
  rw [grown]
  rcases known with ⟨_, rfl, rfl, zero⟩ | ⟨_, rfl⟩
  · rw [zero, Int.cast_zero, add_zero, zero_add, zero_add]
  · rw [← WithZero.coe_add]

def sumSummary (F : Type) [FloatOps F] [ExactFloats F] :
    Summary (AggregateFunction.aggregator F .sum) (fun _ => True) (WithZero ℚ) where
  weight := numberOf
  fits _ := True
  represents total state := ∃ intSum floatSum seen, state = .sum intSum floatSum seen none ∧
    SumOf total intSum floatSum seen
  output := sumScalar
  fits_zero := trivial
  fits_left _ := trivial
  represents_fresh := ⟨0, FloatOps.ofInt 0, false, rfl, .inl ⟨rfl, rfl, rfl, by rw [number_ofInt]; rfl⟩⟩
  finish_eq {total state} represented := by
    obtain ⟨intSum, floatSum, seen, rfl, ⟨rfl, rfl, _⟩ | ⟨rfl, rfl⟩⟩ := represented
    · rfl
    · have same : FloatOps.add floatSum (FloatOps.ofInt intSum) =
          number.symm (number floatSum + intSum) := by
        rw [Equiv.eq_symm_apply, number_add, number_ofInt]
      change ScalarValue.float64 (FloatOps.add floatSum (FloatOps.ofInt intSum)) = _
      rw [same]
      rfl
  step_ok {total state value next} represented _ stepped := by
    obtain ⟨intSum, floatSum, seen, rfl, known⟩ := represented
    cases value with
    | null =>
      simp [AggregateFunction.aggregator, AggregateState.update] at stepped
      exact ⟨0, rfl, trivial, intSum, floatSum, seen, stepped.symm, (add_zero total).symm ▸ known⟩
    | int64 value =>
      simp [AggregateFunction.aggregator, AggregateState.update, insertDistinct] at stepped
      refine ⟨_, rfl, trivial, _, _, _, stepped.symm, known.add _ ?_⟩
      rw [Int.cast_add, add_assoc]
    | uint64 value =>
      simp [AggregateFunction.aggregator, AggregateState.update, insertDistinct] at stepped
      refine ⟨_, rfl, trivial, _, _, _, stepped.symm, known.add _ ?_⟩
      rw [Int.cast_add, Int.cast_natCast, add_assoc]
    | float64 value =>
      simp [AggregateFunction.aggregator, AggregateState.update, insertDistinct] at stepped
      refine ⟨_, rfl, trivial, _, _, _, stepped.symm, known.add _ ?_⟩
      rw [number_add, add_right_comm]
    | boolean value | utf8 value =>
      simp [AggregateFunction.aggregator, AggregateState.update, insertDistinct] at stepped
  step_total {total state value added} represented _ weighed _ := by
    obtain ⟨intSum, floatSum, seen, rfl, known⟩ := represented
    cases value <;>
      simp [numberOf, AggregateFunction.aggregator, AggregateState.update, insertDistinct] at weighed ⊢

theorem ScalarValue.partialCompare_eq (same : left.dataType = right.dataType) :
    left.partialCompare right = some (order left.toValue.rank right.toValue.rank) := by
  refine partialCompare_rank same fun float => ?_
  cases left with
  | float64 left =>
    cases right with
    | float64 right =>
      exact (ExactFloats.partialCompare_eq left right).trans (congrArg some (totalCompare_eq left right).symm)
    | _ => cases same
  | _ => cases float

def extremeAggregator (F : Type) [FloatOps F] (wanted : Ordering) :
    Aggregator (Option (ScalarValue F)) (ScalarValue F) SparkXError (ScalarValue F) where
  fresh := none
  step := updateExtreme wanted
  finish current := current.getD .null

def ScalarValue.Fits (dataType : DataType) (value : ScalarValue F) : Prop :=
  value = .null ∨ value.dataType = dataType

abbrev Extreme (wanted : Ordering) (F : Type) := WithZero (Tropical (Ranked wanted F))

def Extreme.of (wanted : Ordering) (value : ScalarValue F) : Extreme wanted F :=
  if value = .null then 0 else ↑(Tropical.trop (Ranked.of wanted value))

def Extreme.ofCurrent (wanted : Ordering) (current : Option (ScalarValue F)) : Extreme wanted F :=
  current.elim 0 fun value => ↑(Tropical.trop (Ranked.of wanted value))

def Extreme.scalar {wanted : Ordering} (total : Extreme wanted F) : ScalarValue F :=
  total.recZeroCoe .null fun value => Tropical.untrop value

variable {dataType : DataType}

theorem Extreme.scalar_add (leftFits : left.Fits dataType) (rightFits : right.Fits dataType) :
    (Extreme.of wanted left + Extreme.of wanted right).scalar.Fits dataType ∧
      Extreme.of wanted (Extreme.of wanted left + Extreme.of wanted right).scalar =
        Extreme.of wanted left + Extreme.of wanted right := by
  have single (value : ScalarValue F) : (Extreme.of wanted value).scalar = value := by
    unfold Extreme.of
    split
    next absent => exact absent.symm
    next => rfl
  have one : Extreme.of wanted left + Extreme.of wanted right = Extreme.of wanted left ∨
      Extreme.of wanted left + Extreme.of wanted right = Extreme.of wanted right := by
    by_cases leftAbsent : left = .null
    · exact .inr (by rw [Extreme.of, if_pos leftAbsent, zero_add])
    by_cases rightAbsent : right = .null
    · have none : Extreme.of wanted right = 0 := if_pos rightAbsent
      exact .inl (by rw [none, add_zero])
    · rw [Extreme.of, Extreme.of, if_neg leftAbsent, if_neg rightAbsent, ← WithZero.coe_add]
      rcases le_total (Tropical.trop (Ranked.of wanted left)) (Tropical.trop (Ranked.of wanted right)) with le | le
      · exact .inl (congrArg WithZero.coe (Tropical.add_eq_left le))
      · exact .inr (congrArg WithZero.coe (Tropical.add_eq_right le))
  rcases one with same | same <;> rw [same, single]
  · exact ⟨leftFits, rfl⟩
  · exact ⟨rightFits, rfl⟩

variable {value : ScalarValue F}

theorem updateExtreme_eq (proper : wanted ≠ .eq) {current : Option (ScalarValue F)}
    (typed : ∀ known ∈ current, known.dataType = dataType) (fits : value.Fits dataType) :
    ∃ next, updateExtreme wanted current value = .ok next ∧ (∀ known ∈ next, known.dataType = dataType) ∧
      Extreme.ofCurrent wanted next = Extreme.ofCurrent wanted current + Extreme.of wanted value := by
  by_cases absent : value = .null
  · refine ⟨current, ?_, typed, ?_⟩
    · simp [updateExtreme, shouldReplaceExtreme, absent]
    · rw [Extreme.of, if_pos absent, add_zero]
  have valueTyped : value.dataType = dataType := fits.resolve_left absent
  have weight : Extreme.of wanted value = ↑(Tropical.trop (Ranked.of wanted value)) := if_neg absent
  cases current with
  | none =>
    refine ⟨some value, ?_, ?_, ?_⟩
    · simp [updateExtreme, shouldReplaceExtreme, absent]
    · rintro _ ⟨⟩
      exact valueTyped
    · rw [weight]
      exact (zero_add _).symm
  | some known =>
    have knownTyped := typed known rfl
    have alike : value.dataType = known.dataType := valueTyped.trans knownTyped.symm
    have compared := ScalarValue.partialCompare_eq alike
    have less := Ranked.lt_iff proper compared
    rw [compared, Option.some.injEq] at less
    have updated : updateExtreme wanted (some known) value = .ok (some
        (if Ranked.of wanted value < Ranked.of wanted known then value else known)) := by
      simp only [updateExtreme, shouldReplaceExtreme, absent, compared, if_false, ← less]
      split <;> simp_all
    refine ⟨_, updated, ?_, ?_⟩
    · rintro _ ⟨⟩
      split
      · exact valueTyped
      · exact knownTyped
    · have least : Tropical.trop (Ranked.of wanted known) + Tropical.trop (Ranked.of wanted value) =
          Tropical.trop (Ranked.of wanted
            (if Ranked.of wanted value < Ranked.of wanted known then value else known)) := by
        rw [← Tropical.trop_min]
        split
        next before => rw [min_eq_right before.le]
        next after => rw [min_eq_left (not_lt.mp after)]
      rw [weight]
      exact (congrArg WithZero.coe least).symm

def extremeSummary (F : Type) [FloatOps F] [ExactFloats F] {wanted : Ordering} (proper : wanted ≠ .eq)
    (dataType : DataType) :
    Summary (extremeAggregator F wanted) (ScalarValue.Fits dataType) (Extreme wanted F) where
  weight value := some (Extreme.of wanted value)
  fits _ := True
  represents total current := (∀ known ∈ current, known.dataType = dataType) ∧
    total = Extreme.ofCurrent wanted current
  output := Extreme.scalar
  fits_zero := trivial
  fits_left _ := trivial
  represents_fresh := by
    refine ⟨fun known inside => ?_, rfl⟩
    cases inside
  finish_eq {total current} represented := by
    obtain ⟨_, rfl⟩ := represented
    cases current <;> rfl
  step_ok {total current value next} represented allowed stepped := by
    obtain ⟨typed, rfl⟩ := represented
    obtain ⟨found, updated, nextTyped, grown⟩ := updateExtreme_eq proper typed allowed
    obtain rfl := Except.ok.inj (updated.symm.trans stepped)
    exact ⟨_, rfl, trivial, nextTyped, grown.symm⟩
  step_total {total current value added} represented allowed _ _ := by
    obtain ⟨typed, rfl⟩ := represented
    obtain ⟨found, updated, _⟩ := updateExtreme_eq proper typed allowed
    exact ⟨found, updated⟩

theorem lt_proper : Ordering.lt ≠ .eq := by decide

theorem gt_proper : Ordering.gt ≠ .eq := by decide

def minSummary (F : Type) [FloatOps F] [ExactFloats F] (dataType : DataType) :
    Summary (AggregateFunction.aggregator F .min) (ScalarValue.Fits dataType) (Extreme .lt F) :=
  (extremeSummary F lt_proper dataType).embed .min rfl (fun _ => rfl) fun _ _ _ => map_eq_ok

def maxSummary (F : Type) [FloatOps F] [ExactFloats F] (dataType : DataType) :
    Summary (AggregateFunction.aggregator F .max) (ScalarValue.Fits dataType) (Extreme .gt F) :=
  (extremeSummary F gt_proper dataType).embed .max rfl (fun _ => rfl) fun _ _ _ => map_eq_ok

def sumNumber (total : WithZero ℚ) : ℚ := total.recZeroCoe 0 id

theorem sumNumber_add (left right : WithZero ℚ) :
    sumNumber (left + right) = sumNumber left + sumNumber right := by
  induction left using WithZero.recZeroCoe with
  | zero => rw [zero_add, sumNumber, sumNumber, WithZero.recZeroCoe_zero, zero_add]
  | coe left =>
    induction right using WithZero.recZeroCoe with
    | zero => rw [add_zero, sumNumber, sumNumber, WithZero.recZeroCoe_zero, add_zero]
    | coe right => rfl

def averageOf (value : ScalarValue F) : Option (WithZero ℚ × ℕ) :=
  (numberOf value).map fun number => (number, countOf value)

def averageScalar (total : WithZero ℚ × ℕ) : ScalarValue F :=
  if word total.2 = 0 then .null
  else .float64 (FloatOps.div (number.symm (sumNumber total.1)) (FloatOps.ofInt (word total.2).val))

theorem numericValue_ok (present : value ≠ .null) :
    (∀ found, numericValue value = .ok found →
        ∃ added, numberOf value = some added ∧ number found = sumNumber added) ∧
      ∀ added, numberOf value = some added → ∃ found, numericValue value = .ok found := by
  cases value with
  | null => exact absurd rfl present
  | int64 value | uint64 value =>
    refine ⟨?_, fun _ _ => ⟨_, rfl⟩⟩
    rintro _ ⟨⟩
    exact ⟨_, rfl, number_ofInt _⟩
  | float64 value =>
    refine ⟨?_, fun _ _ => ⟨_, rfl⟩⟩
    rintro _ ⟨⟩
    exact ⟨_, rfl, rfl⟩
  | boolean value | utf8 value => exact ⟨nofun, nofun⟩

theorem numberOf_present (present : value ≠ .null) {added : WithZero ℚ}
    (weighed : numberOf value = some added) : added = ((sumNumber added : ℚ) : WithZero ℚ) := by
  cases value with
  | null => exact absurd rfl present
  | boolean | utf8 => cases weighed
  | int64 | uint64 | float64 =>
    cases weighed
    rfl

def averageSummary (F : Type) [FloatOps F] [ExactFloats F] :
    Summary (AggregateFunction.aggregator F .avg) (fun _ => True) (WithZero ℚ × ℕ) where
  weight := averageOf
  fits _ := True
  represents total state := ∃ sum, state = .avg sum (word total.2) none ∧ number sum = sumNumber total.1
  output := averageScalar
  fits_zero := trivial
  fits_left _ := trivial
  represents_fresh := ⟨FloatOps.ofInt 0, rfl, by rw [number_ofInt]; rfl⟩
  finish_eq {total state} represented := by
    obtain ⟨sum, rfl, known⟩ := represented
    rw [averageScalar, ← known, Equiv.symm_apply_apply]
    rfl
  step_ok {total state value next} represented _ stepped := by
    obtain ⟨sum, rfl, known⟩ := represented
    by_cases absent : value = .null
    · subst absent
      obtain rfl : .avg sum (word total.2) none = next := Except.ok.inj stepped
      exact ⟨0, rfl, trivial, sum, by rw [add_zero], by rw [add_zero, known]⟩
    · simp only [AggregateFunction.aggregator, AggregateState.update, absent, if_false, insertDistinct,
        bind_ok, pure_eq_ok] at stepped
      obtain ⟨found, numeric, rfl⟩ := stepped
      obtain ⟨added, weighed, same⟩ := (numericValue_ok absent).1 found numeric
      refine ⟨(added, 1), ?_, trivial, FloatOps.add sum found, ?_, ?_⟩
      · rw [averageOf, weighed, countOf, if_neg absent]
        rfl
      · rw [word_add_one]
        rfl
      · rw [number_add, known, same, ← sumNumber_add]
        rfl
  step_total {total state value added} represented _ weighed _ := by
    obtain ⟨sum, rfl, known⟩ := represented
    by_cases absent : value = .null
    · subst absent
      exact ⟨_, rfl⟩
    · obtain ⟨number, weighed, _⟩ := Option.map_eq_some_iff.mp weighed
      obtain ⟨found, numeric⟩ := (numericValue_ok absent).2 number weighed
      simp only [AggregateFunction.aggregator, AggregateState.update, absent, if_false, insertDistinct,
        bind_ok, pure_eq_ok]
      exact ⟨_, found, numeric, rfl⟩

end SparkX
