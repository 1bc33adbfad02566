import SparkX.Cluster.Partial.Merge

set_option autoImplicit false

namespace SparkX

open Rowwise

variable {F : Type}

variable {wanted : Ordering} {function : AggregateFunction} {rows : List (Row F)} {result : ScalarValue F}

section

variable [ArrowKernels F]

theorem updateExtreme_mem {current next : Option (ScalarValue F)} {value : ScalarValue F}
    (updated : updateExtreme wanted current value = .ok next) {known : ScalarValue F} (inside : known ∈ next) :
    known ∈ current ∨ known = value := by
  obtain ⟨replace, _, rfl⟩ : ∃ replace, shouldReplaceExtreme wanted current value = .ok replace ∧
      (if replace then some value else current) = next := by
    simpa only [updateExtreme, bind_ok, pure_eq_ok] using updated
  cases replace with
  | true => exact .inr (Option.some.inj inside).symm
  | false => exact .inl inside

theorem extreme_mem {wanted : Ordering} {wrap : Option (ScalarValue F) → AggregateState F}
    (updates : ∀ current value, (wrap current).update value = wrap <$> updateExtreme wanted current value)
    {read : Row F → Except SparkXError (ScalarValue F)} {rows : List (Row F)}
    {current : Option (ScalarValue F)} {final : AggregateState F}
    (folded : rows.foldlM (fun state row => do state.update (← read row)) (wrap current) = .ok final) :
    ∃ last, final = wrap last ∧ ∀ known ∈ last, known ∈ current ∨ ∃ row ∈ rows, read row = .ok known := by
  induction rows generalizing current with
  | nil => exact ⟨current, (pure_eq_ok.mp folded).symm, fun known inside => .inl inside⟩
  | cons row rest ih =>
    simp only [List.foldlM_cons, bind_ok, updates, map_eq_ok] at folded
    obtain ⟨_, ⟨value, found, next, updated, rfl⟩, folded⟩ := folded
    obtain ⟨last, rfl, members⟩ := ih folded
    refine ⟨last, rfl, fun known inside => ?_⟩
    rcases members known inside with earlier | ⟨other, member, there⟩
    · rcases updateExtreme_mem updated earlier with before | rfl
      · exact .inl before
      · exact .inr ⟨row, List.mem_cons_self, found⟩
    · exact .inr ⟨other, List.mem_cons_of_mem _ member, there⟩

theorem extreme_result (extreme : function = .min ∨ function = .max) {scanned : Schema} {expr : Expr F}
    (computed : (AggregateSpec.aggregator scanned (function, expr, false)).result rows = .ok result) :
    result = .null ∨ ∃ row ∈ rows, argumentIn scanned expr row = .ok result := by
  have named (wrap : Option (ScalarValue F) → AggregateState F) {last : Option (ScalarValue F)}
      (finishes : (wrap last).finish = last.getD .null)
      (members : ∀ known ∈ last, known ∈ (none : Option (ScalarValue F)) ∨
        ∃ row ∈ rows, argumentIn scanned expr row = .ok known) :
      (wrap last).finish = .null ∨ ∃ row ∈ rows, argumentIn scanned expr row = .ok (wrap last).finish := by
    rw [finishes]
    cases last with
    | none => exact .inl rfl
    | some known => exact .inr ((members known rfl).resolve_left nofun)
  obtain ⟨final, folded, rfl⟩ := map_eq_ok.mp computed
  rcases extreme with rfl | rfl
  · obtain ⟨last, rfl, members⟩ := @extreme_mem F _ .lt .min (fun _ _ => rfl) _ _ _ _ folded
    exact named .min rfl members
  · obtain ⟨last, rfl, members⟩ := @extreme_mem F _ .gt .max (fun _ _ => rfl) _ _ _ _ folded
    exact named .max rfl members

variable [ExactFloats F]

theorem stored_sum (total : WithZero ℚ) :
    valueAt .float64 (slotOf .float64 (sumScalar total : ScalarValue F)) = .ok (sumScalar total) := by
  induction total using WithZero.recZeroCoe with
  | zero => rfl
  | coe total => rfl

theorem stored_result {input scanned : Schema} (declares : input.Declares scanned) {spec : AggregateSpec F}
    (plain : spec.2.2 = false) (single : spec.1 ≠ .avg) (offered : spec.1 ≠ .sumUInt64) {declared : DataType}
    (expected : spec.declared input = .ok declared) (argued : ∀ row ∈ rows, Argued [spec] scanned row)
    (computed : (spec.aggregator scanned).result rows = .ok result) :
    valueAt declared (slotOf declared result) = .ok result := by
  obtain ⟨function, expr, distinct⟩ := spec
  subst plain
  have arguments (row : Row F) (member : row ∈ rows) : scanned.admits row ∧ (expr ≠ .wildcard →
      ∃ dataType, expr.typeIn scanned = some dataType) :=
    ⟨(argued row member).1, (argued row member).2 _ List.mem_cons_self⟩
  cases function with
  | count =>
    obtain ⟨total, _, _, rfl⟩ := (((countSummary F).comap (argumentIn scanned expr)).result_ok
      fun _ _ _ _ => trivial).mp computed
    cases expected
    rfl
  | sum =>
    obtain ⟨total, _, _, rfl⟩ := (((sumSummary F).comap (argumentIn scanned expr)).result_ok
      fun _ _ _ _ => trivial).mp computed
    obtain ⟨found, _, known⟩ := bind_ok.mp expected
    obtain rfl : declared = .float64 := by
      rw [lift_ok, AggregateFunction.argumentType] at known
      split at known
      · exact (Except.ok.inj known).symm
      · cases known
    exact stored_sum total
  | min | max =>
    obtain ⟨found, typed, ⟨⟩⟩ := bind_ok.mp expected
    rcases extreme_result (by simp) computed with rfl | ⟨row, member, read⟩
    · exact (readAs_null declared).stored (.refl declared) fun _ => ExactFloats.narrow_eq
    · have proper : expr ≠ .wildcard := by
        rintro rfl
        cases typed
      have ⟨admitted, known⟩ := arguments row member
      obtain ⟨dataType, known⟩ := known proper
      exact (argumentIn_readAs proper admitted known read).stored (Expr.typeIn_widens declares known typed)
        fun _ => ExactFloats.narrow_eq
  | avg => exact absurd rfl single
  | sumUInt64 => exact absurd rfl offered

end

section

variable [ArrowKernels F] [ExactFloats F]

def AggregateSpec.split : AggregateSpec F → List (AggregateSpec F)
  | (.avg, expr, distinct) => [(.sum, expr, distinct), (.count, expr, distinct)]
  | spec => [spec]

def Found (scanned : Schema) (types : List DataType) (column : Nat) (spec : AggregateSpec F)
    (rows : List (Row F)) (slots : List (Value F)) : Prop :=
  ∃ result, (spec.aggregator scanned).result rows = .ok result ∧ valueInRow types slots column = .ok result

omit [ExactFloats F] in
theorem argumentIn_fits {specs : List (AggregateSpec F)} {spec : AggregateSpec F} (member : spec ∈ specs)
    (scanned : Schema) : ∃ dataType, ∀ row, Argued specs scanned row →
      ∀ value, argumentIn scanned spec.2.1 row = .ok value → value.Fits dataType := by
  by_cases wildcard : spec.2.1 = .wildcard
  · refine ⟨.boolean, fun row _ value read => .inr ?_⟩
    rw [wildcard] at read
    rw [← Except.ok.inj read]
    rfl
  · refine ⟨((spec.2.1.typeIn scanned).getD .null).scalarType, fun row argued value read => ?_⟩
    obtain ⟨known, typed⟩ := argued.2 spec member wildcard
    rw [typed]
    exact (argumentIn_readAs wildcard argued.1 typed read).fits

variable {ι : Type}

omit [ExactFloats F] in
theorem countWeighs_le {read : ι → Except SparkXError (ScalarValue F)} {items : List ι} {total : ℕ}
    (weighs : ((countSummary F).comap read).Weighs items total) : total ≤ items.length := by
  induction items generalizing total with
  | nil => exact Nat.le_of_eq (((countSummary F).comap read).weighs_nil.mp weighs)
  | cons item rest ih =>
    obtain ⟨added, others, here, there, rfl⟩ := ((countSummary F).comap read).weighs_cons.mp weighs
    have small : added ≤ 1 := by
      obtain ⟨value, _, weight⟩ := Option.bind_eq_some_iff.mp here
      cases weight
      unfold countOf
      split <;> omega
    have := ih there
    rw [List.length_cons]
    omega

theorem extreme_weighs (proper : wanted ≠ .eq) {dataType : DataType}
    {read : ι → Except SparkXError (ScalarValue F)} {items : List ι}
    (fits : ∀ item ∈ items, ∀ value, read item = .ok value → value.Fits dataType) {total : Extreme wanted F}
    (weighs : ((extremeSummary F proper dataType).comap read).Weighs items total) :
    total.scalar.Fits dataType ∧ Extreme.of wanted total.scalar = total := by
  induction items generalizing total with
  | nil =>
    obtain rfl := (Summary.weighs_nil _).mp weighs
    exact ⟨.inl rfl, rfl⟩
  | cons item rest ih =>
    obtain ⟨added, others, here, there, rfl⟩ := (Summary.weighs_cons _).mp weighs
    obtain ⟨value, found, weight⟩ := Option.bind_eq_some_iff.mp here
    cases weight
    have valueFits := fits item List.mem_cons_self value (Operator.toOption_eq_some.mp found)
    obtain ⟨othersFit, same⟩ := ih (fun other member => fits other (List.mem_cons_of_mem _ member)) there
    rw [← same]
    exact Extreme.scalar_add valueFits othersFit

theorem numberOf_sumScalar (total : WithZero ℚ) : numberOf (sumScalar total : ScalarValue F) = some total := by
  induction total using WithZero.recZeroCoe with
  | zero => rfl
  | coe total =>
    change some (((ExactFloats.number (ExactFloats.number.symm total : F)) : ℚ) : WithZero ℚ) = _
    rw [Equiv.apply_symm_apply]

theorem average_weighs {read : ι → Except SparkXError (ScalarValue F)} {items : List ι}
    {total : WithZero ℚ × ℕ} :
    ((averageSummary F).comap read).Weighs items total ↔
      ((sumSummary F).comap read).Weighs items total.1 ∧ ((countSummary F).comap read).Weighs items total.2 := by
  have weight (item : ι) (added : WithZero ℚ × ℕ) : ((averageSummary F).comap read).weight item = some added ↔
      ((sumSummary F).comap read).weight item = some added.1 ∧
        ((countSummary F).comap read).weight item = some added.2 := by
    cases found : read item with
    | error error => simp [Summary.comap, found, Except.toOption]
    | ok value =>
      simp only [Summary.comap_weight _ found]
      change averageOf value = some added ↔ numberOf value = some added.1 ∧ some (countOf value) = some added.2
      rw [averageOf, Option.map_eq_some_iff]
      simp only [Prod.ext_iff, Option.some.injEq]
      grind
  induction items generalizing total with
  | nil => simp only [Summary.weighs_nil, Prod.ext_iff, Prod.fst_zero, Prod.snd_zero]
  | cons item rest ih =>
    simp only [Summary.weighs_cons, weight, ih, Prod.ext_iff, Prod.fst_add, Prod.snd_add, Prod.exists]
    grind

section

variable {scanned : Schema} {types : List DataType} {column : Nat} {columns : List (List (Row F))}
  {parts arrived : List (List (Value F))} {expr : Expr F}

variable {spec : AggregateSpec F}

omit [ExactFloats F] in
theorem merges_found {M : Type} [AddCommMonoid M] {admissible : Row F → Prop}
    {handed : List (Value F) → Prop} (summary : Summary (spec.aggregator scanned) admissible M)
    (merge : Summary (merger types (spec.1, column)) handed M)
    (agree : ∀ total, merge.fits total → merge.output total = summary.output total)
    (unbounded : ∀ total, summary.fits total) (allowed : ∀ row ∈ columns.flatten, admissible row)
    (room : ∀ total, summary.Weighs columns.flatten total → merge.fits total)
    (read : ∀ rows ∈ columns, ∀ total slots, summary.Weighs rows total →
      valueInRow types slots column = .ok (summary.output total) →
        handed slots ∧ merge.weight slots = some total)
    (found : List.Forall₂ (Found scanned types column spec) columns parts) (same : arrived.Perm parts) :
    ∃ result, (spec.aggregator scanned).result columns.flatten = .ok result ∧
      (merger types (spec.1, column)).result arrived = .ok result := by
  have weighed : List.Forall₂ (fun rows slots => handed slots ∧ ∃ total, summary.Weighs rows total ∧
      merge.weight slots = some total) columns parts := by
    refine forall₂_imp_mem (fun rows slots inside ⟨result, computed, here⟩ => ?_) found
    have admitted (row : Row F) (member : row ∈ rows) : admissible row :=
      allowed row (List.mem_flatten.mpr ⟨rows, inside, member⟩)
    obtain ⟨total, weighs, _, rfl⟩ := (summary.result_ok admitted).mp computed
    obtain ⟨fine, weight⟩ := read rows inside total slots weighs here
    exact ⟨fine, total, weighs, weight⟩
  refine summary.merges merge agree unbounded allowed (fun part member => ?_) room
    (weighed.imp fun _ _ both => both.2) same
  obtain ⟨_, _, fine, _⟩ := forall₂_mem weighed member
  exact fine

omit [ExactFloats F] in
theorem count_merges (few : columns.flatten.length < 2 ^ 64)
    (found : List.Forall₂ (Found scanned types column (.count, expr, false)) columns parts)
    (same : arrived.Perm parts) :
    ∃ result, (AggregateSpec.aggregator scanned (.count, expr, false)).result columns.flatten = .ok result ∧
      (merger types (.count, column)).result arrived = .ok result := by
  refine merges_found ((countSummary F).comap (argumentIn scanned expr)) (countSlots types column)
    (fun _ _ => rfl) (fun _ => trivial) (fun _ _ _ _ => trivial) ?_ ?_ found same
  · intro total weighs
    exact Nat.lt_of_le_of_lt (countWeighs_le weighs) few
  · intro rows inside total slots weighs here
    have small : total < 2 ^ 64 :=
      Nat.lt_of_le_of_lt ((countWeighs_le weighs).trans (List.sublist_flatten_of_mem inside).length_le) few
    refine ⟨fun value found => ⟨_, Except.ok.inj (found.symm.trans here)⟩, ?_⟩
    refine (Summary.comap_weight _ here).trans (congrArg some ?_)
    exact Nat.mod_eq_of_lt small

theorem sum_merges (found : List.Forall₂ (Found scanned types column (.sum, expr, false)) columns parts)
    (same : arrived.Perm parts) :
    ∃ result, (AggregateSpec.aggregator scanned (.sum, expr, false)).result columns.flatten = .ok result ∧
      (merger types (.sum, column)).result arrived = .ok result := by
  refine merges_found ((sumSummary F).comap (argumentIn scanned expr)) (sumSlots types column)
    (fun _ _ => rfl) (fun _ => trivial) (fun _ _ _ _ => trivial) (fun _ _ => trivial) ?_ found same
  intro rows inside total slots weighs here
  exact ⟨fun _ _ => trivial, (Summary.comap_weight _ here).trans (numberOf_sumScalar total)⟩

theorem extreme_merges (extreme : function = .min ∨ function = .max)
    (argued : ∀ row ∈ columns.flatten, Argued [(function, expr, false)] scanned row)
    (found : List.Forall₂ (Found scanned types column (function, expr, false)) columns parts)
    (same : arrived.Perm parts) :
    ∃ result, (AggregateSpec.aggregator scanned (function, expr, false)).result columns.flatten = .ok result ∧
      (merger types (function, column)).result arrived = .ok result := by
  obtain ⟨dataType, fits⟩ := argumentIn_fits (List.mem_singleton_self (function, expr, false)) scanned
  have allowed (row : Row F) (member : row ∈ columns.flatten) := fits row (argued row member)
  -- What is read weighs what it was computed from, whichever end is wanted.
  have read {wanted : Ordering} (proper : wanted ≠ .eq) (rows : List (Row F)) (inside : rows ∈ columns)
      (total : Extreme wanted F) (slots : List (Value F))
      (weighs : ((extremeSummary F proper dataType).comap (argumentIn scanned expr)).Weighs rows total)
      (here : valueInRow types slots column = .ok total.scalar) :
      Holds types column (ScalarValue.Fits dataType) slots ∧
        ((extremeMergeSummary F proper dataType).comap (valueInRow types · column)).weight slots =
          some total := by
    obtain ⟨known, weight⟩ := extreme_weighs proper (fun row member =>
      allowed row (List.mem_flatten.mpr ⟨rows, inside, member⟩)) weighs
    refine ⟨fun value read => ?_, (Summary.comap_weight _ here).trans (congrArg some weight)⟩
    rwa [Except.ok.inj (read.symm.trans here)]
  rcases extreme with rfl | rfl
  · exact merges_found ((minSummary F dataType).comap (argumentIn scanned expr))
      (minSlots types column dataType) (fun _ _ => rfl) (fun _ => trivial) allowed (fun _ _ => trivial)
      (read (by decide)) found same
  · exact merges_found ((maxSummary F dataType).comap (argumentIn scanned expr))
      (maxSlots types column dataType) (fun _ _ => rfl) (fun _ => trivial) allowed (fun _ _ => trivial)
      (read (by decide)) found same

theorem average_merges (few : columns.flatten.length < 2 ^ 64)
    (sums : List.Forall₂ (Found scanned types column (.sum, expr, false)) columns parts)
    (counts : List.Forall₂ (Found scanned types (column + 1) (.count, expr, false)) columns parts)
    (same : arrived.Perm parts) :
    ∃ result, (AggregateSpec.aggregator scanned (.avg, expr, false)).result columns.flatten = .ok result ∧
      (merger types (.avg, column)).result arrived = .ok result := by
  have weighed : List.Forall₂ (fun rows slots =>
      (∀ pair, valuePair types column slots = .ok pair → ∃ count, pair.2 = .uint64 count) ∧
        ∃ total, ((averageSummary F).comap (argumentIn scanned expr)).Weighs rows total ∧
          (averageSlots types column).weight slots = some total) columns parts := by
    have both := forall₂_and sums counts
    refine forall₂_imp_mem (fun rows slots inside found => ?_) both
    obtain ⟨⟨_, summed, first⟩, _, counted, second⟩ := found
    obtain ⟨sum, sumWeighs, _, rfl⟩ := (((sumSummary F).comap (argumentIn scanned expr)).result_ok
      fun _ _ _ _ => trivial).mp summed
    obtain ⟨count, countWeighs, _, rfl⟩ := (((countSummary F).comap (argumentIn scanned expr)).result_ok
      fun _ _ _ _ => trivial).mp counted
    have small : count < 2 ^ 64 :=
      Nat.lt_of_le_of_lt ((countWeighs_le countWeighs).trans (List.sublist_flatten_of_mem inside).length_le) few
    have pair : valuePair types column slots = .ok (sumScalar sum, .uint64 (word count)) :=
      bind_ok.mpr ⟨_, first, bind_ok.mpr ⟨_, second, rfl⟩⟩
    refine ⟨fun other read => ?_, (sum, count), average_weighs.mpr ⟨sumWeighs, countWeighs⟩, ?_⟩
    · rw [Except.ok.inj (read.symm.trans pair)]
      exact ⟨_, rfl⟩
    · have kept : (word count).val = count := Nat.mod_eq_of_lt small
      refine (Summary.comap_weight _ pair).trans ?_
      change (do return (← numberOf (sumScalar sum : ScalarValue F), ← some (word count).val)) = some (sum, count)
      rw [numberOf_sumScalar, kept]
      rfl
  refine ((averageSummary F).comap (argumentIn scanned expr)).merges (averageSlots types column)
    (fun _ _ => rfl) (fun _ => trivial) (fun _ _ _ _ => trivial) (fun part member => ?_)
    (fun total weighs => ?_) (weighed.imp fun _ _ both => both.2) same
  · obtain ⟨_, _, fine, _⟩ := forall₂_mem weighed member
    exact fine
  · exact Nat.lt_of_le_of_lt (countWeighs_le (average_weighs.mp weighs).2) few

theorem spec_merges (plain : spec.2.2 = false) (offered : spec.1 ≠ .sumUInt64)
    (few : columns.flatten.length < 2 ^ 64) (argued : ∀ row ∈ columns.flatten, Argued [spec] scanned row)
    (found : ∀ offset part, spec.split[offset]? = some part →
      List.Forall₂ (Found scanned types (column + offset) part) columns parts)
    (same : arrived.Perm parts) :
    ∃ result, (spec.aggregator scanned).result columns.flatten = .ok result ∧
      (merger types (spec.1, column)).result arrived = .ok result := by
  obtain ⟨function, expr, distinct⟩ := spec
  subst plain
  cases function with
  | count => exact count_merges few (found 0 _ rfl) same
  | sum => exact sum_merges (found 0 _ rfl) same
  | min => exact extreme_merges (.inl rfl) argued (found 0 _ rfl) same
  | max => exact extreme_merges (.inr rfl) argued (found 0 _ rfl) same
  | avg => exact average_merges few (found 0 _ rfl) (found 1 _ rfl) same
  | sumUInt64 => exact absurd rfl offered

theorem spec_parts (plain : spec.2.2 = false) (offered : spec.1 ≠ .sumUInt64)
    (argued : ∀ row ∈ columns.flatten, Argued [spec] scanned row)
    (computed : (spec.aggregator scanned).result columns.flatten = .ok result) (inside : rows ∈ columns)
    {part : AggregateSpec F} (member : part ∈ spec.split) :
    ∃ found, (part.aggregator scanned).result rows = .ok found := by
  obtain ⟨function, expr, distinct⟩ := spec
  subst plain
  obtain ⟨dataType, fits⟩ := argumentIn_fits (List.mem_singleton_self (function, expr, false)) scanned
  have allowed (row : Row F) (member : row ∈ columns.flatten) := fits row (argued row member)
  have anything (row : Row F) (_ : row ∈ columns.flatten) (value : ScalarValue F)
    (_ : argumentIn scanned expr row = .ok value) : True := trivial
  cases function with
  | count =>
    obtain rfl := List.mem_singleton.mp member
    exact ((countSummary F).comap _).exists_result_part (fun _ => trivial) anything computed inside
  | sum =>
    obtain rfl := List.mem_singleton.mp member
    exact ((sumSummary F).comap _).exists_result_part (fun _ => trivial) anything computed inside
  | min =>
    obtain rfl := List.mem_singleton.mp member
    exact ((minSummary F dataType).comap _).exists_result_part (fun _ => trivial) allowed computed inside
  | max =>
    obtain rfl := List.mem_singleton.mp member
    exact ((maxSummary F dataType).comap _).exists_result_part (fun _ => trivial) allowed computed inside
  | avg =>
    obtain ⟨_, weighs, _⟩ := (((averageSummary F).comap _).result_ok anything).mp computed
    obtain ⟨total, here⟩ := ((averageSummary F).comap _).exists_weighs_part weighs inside
    obtain ⟨sum, count⟩ := average_weighs.mp here
    have nothing (row : Row F) (_ : row ∈ rows) (value : ScalarValue F)
      (_ : argumentIn scanned expr row = .ok value) : True := trivial
    rcases List.mem_pair.mp member with rfl | rfl
    · exact ⟨_, (((sumSummary F).comap _).result_ok nothing).mpr ⟨_, sum, trivial, rfl⟩⟩
    · exact ⟨_, (((countSummary F).comap _).result_ok nothing).mpr ⟨_, count, trivial, rfl⟩⟩
  | sumUInt64 => exact absurd rfl offered

end

end

end SparkX
