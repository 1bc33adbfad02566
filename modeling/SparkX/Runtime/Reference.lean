import SparkX.Runtime.Planned

set_option autoImplicit false

namespace SparkX

open Rowwise

variable {F : Type}

section

variable [FloatOps F]

def taken (distinct : Bool) (arguments : List (ScalarValue F)) : List (ScalarValue F) :=
  let present := arguments.filter (· ≠ .null)
  if distinct then present.dedup else present

theorem mem_taken {distinct : Bool} {arguments : List (ScalarValue F)} {value : ScalarValue F} :
    value ∈ taken distinct arguments ↔ value ∈ arguments ∧ value ≠ .null := by
  cases distinct <;> simp [taken]

theorem taken_null (distinct : Bool) (arguments : List (ScalarValue F)) :
    taken distinct (arguments ++ [.null]) = taken distinct arguments := by
  simp [taken]

theorem length_taken_le (distinct : Bool) (arguments : List (ScalarValue F)) :
    (taken distinct arguments).length ≤ arguments.length := by
  have present : (arguments.filter (· ≠ .null)).length ≤ arguments.length := List.length_filter_le ..
  cases distinct with
  | false => exact present
  | true => exact Nat.le_trans (List.dedup_sublist _).length_le present

theorem taken_perm (distinct : Bool) {first second : List (ScalarValue F)} (same : first.Perm second) :
    (taken distinct first).Perm (taken distinct second) := by
  cases distinct with
  | false => exact same.filter _
  | true => exact (same.filter _).dedup

def keptSet (distinct : Bool) (collected : List (ScalarValue F)) : Option (List (ScalarValue F)) :=
  if distinct then some collected else none

theorem insertDistinct_collects {distinct : Bool} {seen collected : List (ScalarValue F)}
    (collects : collected.Perm (taken distinct seen)) {value : ScalarValue F} (present : value ≠ .null) :
    insertDistinct (keptSet distinct collected) value = none ∧ collected.Perm (taken distinct (seen ++ [value])) ∨
      insertDistinct (keptSet distinct collected) value = some (keptSet distinct (value :: collected)) ∧
        (value :: collected).Perm (taken distinct (seen ++ [value])) := by
  cases distinct with
  | false =>
    refine .inr ⟨rfl, ?_⟩
    have grown : taken false (seen ++ [value]) = taken false seen ++ [value] := by simp [taken, present]
    rw [grown]
    exact (collects.cons value).trans (List.perm_append_singleton ..).symm
  | true =>
    have nodup (arguments : List (ScalarValue F)) : (taken true arguments).Nodup := List.nodup_dedup _
    have collectedNodup := collects.nodup_iff.mpr (nodup seen)
    by_cases known : value ∈ collected
    · refine .inl ⟨by simp [insertDistinct, keptSet, known], ?_⟩
      refine (List.perm_ext_iff_of_nodup collectedNodup (nodup _)).mpr fun other => ?_
      rw [collects.mem_iff, mem_taken, mem_taken, List.mem_append, List.mem_singleton]
      have ⟨inside, _⟩ := mem_taken.mp (collects.mem_iff.mp known)
      grind
    · refine .inr ⟨by simp [insertDistinct, keptSet, known], ?_⟩
      refine (List.perm_ext_iff_of_nodup (List.nodup_cons.mpr ⟨known, collectedNodup⟩) (nodup _)).mpr fun other => ?_
      rw [List.mem_cons, collects.mem_iff, mem_taken, mem_taken, List.mem_append, List.mem_singleton]
      grind

end

section

def ScalarValue.integer : ScalarValue F → ℤ
  | .int64 value => value.value
  | .uint64 value => value.val
  | _ => 0

variable [FloatOps F]

-- The result of an aggregate on the values that count. A sum is the number next to the integer
-- total, which `i128` holds.
def AggregateFunction.Means (function : AggregateFunction) (values : List (ScalarValue F))
    (result : ScalarValue F) : Prop :=
  match function with
  | .count => ∃ total : U64, total.val = values.length ∧ result = .uint64 total
  | .sum =>
    let total := (values.map ScalarValue.integer).sum
    (-2 ^ 127 : ℤ) ≤ total ∧ total < 2 ^ 127 ∧
      result = if values = [] then .null else .float64 (FloatOps.add (FloatOps.ofInt 0) (FloatOps.ofInt total))
  | .min => values = [] ∧ result = .null ∨
    result ∈ values ∧ ∀ value ∈ values, result = value ∨ result.partialCompare value = some .lt
  | .max => values = [] ∧ result = .null ∨
    result ∈ values ∧ ∀ value ∈ values, result = value ∨ result.partialCompare value = some .gt
  | .avg | .sumUInt64 => False

end

variable {wanted : Ordering}

section

variable [FloatOps F] {distinct : Bool} {arguments : List (ScalarValue F)} {final : AggregateState F}

theorem count_folded (folded : arguments.foldlM AggregateState.update (.new .count distinct) = .ok final) :
    ∃ collected : List (ScalarValue F), collected.Perm (taken distinct arguments) ∧
      final = .count (word collected.length) (keptSet distinct collected) := by
  refine foldlM_induct (fun seen state => ∃ collected : List (ScalarValue F),
    collected.Perm (taken distinct seen) ∧ state = .count (word collected.length) (keptSet distinct collected))
    ?_ ⟨[], by cases distinct <;> rfl, by cases distinct <;> rfl⟩ folded
  rintro seen value _ next ⟨collected, collects, rfl⟩ stepped
  by_cases absent : value = .null
  · subst absent
    cases stepped
    exact ⟨collected, by rwa [taken_null], rfl⟩
  · rw [AggregateState.update, if_neg absent] at stepped
    rcases insertDistinct_collects collects absent with ⟨known, same⟩ | ⟨fresh, grown⟩
    · rw [known] at stepped
      exact ⟨collected, same, (Except.ok.inj stepped).symm⟩
    · rw [fresh] at stepped
      exact ⟨value :: collected, grown, by rw [← Except.ok.inj stepped, word_add_one]; rfl⟩

def ScalarValue.IsInteger (value : ScalarValue F) : Prop :=
  value = .null ∨ value.dataType = .int64 ∨ value.dataType = .uint64

theorem sum_folded (integers : ∀ value ∈ arguments, value.IsInteger)
    (folded : arguments.foldlM AggregateState.update (.new .sum distinct) = .ok final) :
    ∃ collected : List (ScalarValue F), collected.Perm (taken distinct arguments) ∧
      final = .sum (collected.map ScalarValue.integer).sum (FloatOps.ofInt 0) (collected ≠ [])
        (keptSet distinct collected) := by
  refine foldlM_induct (fun seen state => (∀ value ∈ seen, value.IsInteger) →
    ∃ collected : List (ScalarValue F), collected.Perm (taken distinct seen) ∧
      state = .sum (collected.map ScalarValue.integer).sum (FloatOps.ofInt 0) (collected ≠ [])
        (keptSet distinct collected))
    ?_ (fun _ => ⟨[], by cases distinct <;> rfl, by cases distinct <;> rfl⟩) folded integers
  intro seen value state next earlier stepped integers
  obtain ⟨collected, collects, rfl⟩ := earlier fun other member => integers other (List.mem_append_left _ member)
  have integer := integers value (List.mem_append_right _ (List.mem_singleton_self value))
  by_cases absent : value = .null
  · subst absent
    cases stepped
    exact ⟨collected, by rwa [taken_null], rfl⟩
  · rw [AggregateState.update, if_neg absent] at stepped
    rcases insertDistinct_collects collects absent with ⟨known, same⟩ | ⟨fresh, grown⟩
    · rw [known] at stepped
      exact ⟨collected, same, (Except.ok.inj stepped).symm⟩
    · rw [fresh] at stepped
      refine ⟨value :: collected, grown, ?_⟩
      cases value with
      | int64 number | uint64 number =>
        rw [← Except.ok.inj stepped, List.map_cons, List.sum_cons, add_comm]
        rfl
      | null => exact absurd rfl absent
      | boolean | float64 | utf8 => simp [ScalarValue.IsInteger, ScalarValue.dataType] at integer

variable [OrderedFloats F]

variable {dataType : DataType}

theorem partialCompare_exact {left right : ScalarValue F} (ordered : dataType ≠ .float64)
    (leftTyped : left.dataType = dataType) (rightTyped : right.dataType = dataType) :
    left.partialCompare right = some (order left.toValue.rank right.toValue.rank) :=
  ScalarValue.partialCompare_rank (leftTyped.trans rightTyped.symm)
    fun float => absurd (leftTyped.symm.trans float) ordered

theorem updateExtreme_exact (proper : wanted ≠ .eq) (ordered : dataType ≠ .float64)
    {best value : ScalarValue F} (bestTyped : best.dataType = dataType) (present : value ≠ .null)
    (valueTyped : value.dataType = dataType) {next : Option (ScalarValue F)}
    (updated : updateExtreme wanted (some best) value = .ok next) :
    next = some value ∧ Ranked.of wanted value < Ranked.of wanted best ∨
      next = some best ∧ Ranked.of wanted best ≤ Ranked.of wanted value := by
  have compared := partialCompare_exact ordered valueTyped bestTyped
  have less := Ranked.lt_iff proper compared
  obtain ⟨replace, decided, same⟩ := bind_ok.mp updated
  rw [shouldReplaceExtreme, if_neg present, compared] at decided
  rw [compared, Option.some.injEq] at less
  cases decided
  rw [← pure_eq_ok.mp same]
  by_cases replaces : order value.toValue.rank best.toValue.rank = wanted
  · exact .inl ⟨by simp [replaces], less.mp replaces⟩
  · exact .inr ⟨by simp [replaces], not_lt.mp fun smaller => replaces (less.mpr smaller)⟩

theorem extreme_folded (proper : wanted ≠ .eq) (typed : ∀ value ∈ arguments, value.Fits dataType)
    (ordered : dataType ≠ .float64) {last : Option (ScalarValue F)}
    (folded : arguments.foldlM (updateExtreme wanted) none = .ok last) (distinct : Bool) :
    last = none ∧ taken distinct arguments = [] ∨
      ∃ best, last = some best ∧ best ∈ taken distinct arguments ∧
        ∀ value ∈ taken distinct arguments, best = value ∨ best.partialCompare value = some wanted := by
  have ranked : last = none ∧ taken distinct arguments = [] ∨
      ∃ best, last = some best ∧ best ∈ taken distinct arguments ∧
        ∀ value ∈ taken distinct arguments, Ranked.of wanted best ≤ Ranked.of wanted value := by
    refine foldlM_induct (fun seen state => (∀ value ∈ seen, value.Fits dataType) →
      (state = none ∧ taken distinct seen = [] ∨ ∃ best, state = some best ∧ best ∈ taken distinct seen ∧
        ∀ value ∈ taken distinct seen, Ranked.of wanted best ≤ Ranked.of wanted value))
      ?_ (fun _ => .inl ⟨rfl, by cases distinct <;> rfl⟩) folded typed
    intro seen value state next earlier stepped fits
    have known := earlier fun other member => fits other (List.mem_append_left _ member)
    have valueFits := fits value (List.mem_append_right _ (List.mem_singleton_self value))
    by_cases absent : value = .null
    · subst absent
      cases stepped
      rwa [taken_null]
    have split {other : ScalarValue F} : other ∈ taken distinct (seen ++ [value]) ↔
        other ∈ taken distinct seen ∨ other = value := by
      rw [mem_taken, mem_taken, List.mem_append, List.mem_singleton]
      grind
    rcases known with ⟨rfl, none⟩ | ⟨best, rfl, inside, least⟩
    · rw [updateExtreme, shouldReplaceExtreme, if_neg absent] at stepped
      refine .inr ⟨value, (Except.ok.inj stepped).symm, split.mpr (.inr rfl), fun other member => ?_⟩
      rcases split.mp member with before | rfl
      · rw [none] at before
        cases before
      · exact le_refl _
    · have bestTyped : best.dataType = dataType := by
        obtain ⟨there, present⟩ := mem_taken.mp inside
        exact (fits best (List.mem_append_left _ there)).resolve_left present
      rcases updateExtreme_exact proper ordered bestTyped absent (valueFits.resolve_left absent) stepped with
        ⟨rfl, less⟩ | ⟨rfl, more⟩
      · refine .inr ⟨value, rfl, split.mpr (.inr rfl), fun other member => ?_⟩
        rcases split.mp member with before | rfl
        · exact le_trans (le_of_lt less) (least other before)
        · exact le_refl _
      · refine .inr ⟨best, rfl, split.mpr (.inl inside), fun other member => ?_⟩
        rcases split.mp member with before | rfl
        · exact least other before
        · exact more
  refine ranked.imp_right ?_
  rintro ⟨best, found, inside, least⟩
  refine ⟨best, found, inside, fun value member => ?_⟩
  have typedOf {other : ScalarValue F} (member : other ∈ taken distinct arguments) : other.dataType = dataType := by
    obtain ⟨there, present⟩ := mem_taken.mp member
    exact (typed other there).resolve_left present
  rcases eq_or_lt_of_le (least value member) with same | less
  · exact .inl same
  · exact .inr ((Ranked.lt_iff proper (partialCompare_exact ordered (typedOf inside) (typedOf member))).mpr less)

end

theorem integer_bounds (value : ScalarValue F) : -2 ^ 63 ≤ value.integer ∧ value.integer < 2 ^ 64 := by
  cases value with
  | int64 number =>
    have lower := number.lower
    have upper := number.upper
    simp only [ScalarValue.integer]
    omega
  | uint64 number =>
    have upper := number.isLt
    simp only [ScalarValue.integer]
    omega
  | _ => simp [ScalarValue.integer]

theorem total_bounds (values : List (ScalarValue F)) :
    -(values.length * 2 ^ 64) ≤ (values.map ScalarValue.integer).sum ∧
      (values.map ScalarValue.integer).sum ≤ values.length * 2 ^ 64 := by
  induction values with
  | nil => simp
  | cons value rest ih =>
    have here := integer_bounds value
    rw [List.map_cons, List.sum_cons, List.length_cons]
    omega

theorem total_fits {values : List (ScalarValue F)} (few : values.length < 2 ^ 63) :
    -2 ^ 127 ≤ (values.map ScalarValue.integer).sum ∧ (values.map ScalarValue.integer).sum < 2 ^ 127 := by
  have bounds := total_bounds values
  omega

variable {function : AggregateFunction}

section

variable [FloatOps F] {distinct : Bool} {arguments : List (ScalarValue F)} {result : ScalarValue F}

def argumentAggregator (function : AggregateFunction) (distinct : Bool) :
    Aggregator (AggregateState F) (ScalarValue F) SparkXError (ScalarValue F) where
  fresh := .new function distinct
  step := AggregateState.update
  finish := AggregateState.finish

theorem count_means (few : arguments.length < 2 ^ 64)
    (computed : (argumentAggregator .count distinct).result arguments = .ok result) :
    AggregateFunction.count.Means (taken distinct arguments) result := by
  obtain ⟨final, folded, rfl⟩ := map_eq_ok.mp computed
  obtain ⟨collected, collects, rfl⟩ := count_folded folded
  refine ⟨word collected.length, ?_, rfl⟩
  have short := length_taken_le distinct arguments
  rw [← collects.length_eq] at short ⊢
  exact Nat.mod_eq_of_lt (Nat.lt_of_le_of_lt short few)

theorem sum_means (few : arguments.length < 2 ^ 63) (integers : ∀ value ∈ arguments, value.IsInteger)
    (computed : (argumentAggregator .sum distinct).result arguments = .ok result) :
    AggregateFunction.sum.Means (taken distinct arguments) result := by
  obtain ⟨final, folded, rfl⟩ := map_eq_ok.mp computed
  obtain ⟨collected, collects, rfl⟩ := sum_folded integers folded
  have ⟨lower, upper⟩ := total_fits (Nat.lt_of_le_of_lt (length_taken_le distinct arguments) few)
  refine ⟨lower, upper, ?_⟩
  have total : (collected.map ScalarValue.integer).sum = ((taken distinct arguments).map ScalarValue.integer).sum :=
    (collects.map _).sum_eq
  have empty : collected = [] ↔ taken distinct arguments = [] := by
    rw [← List.length_eq_zero_iff, collects.length_eq, List.length_eq_zero_iff]
  simp [argumentAggregator, AggregateState.finish, total, empty]

variable [OrderedFloats F]

theorem extreme_means (proper : wanted ≠ .eq) {wrap : Option (ScalarValue F) → AggregateState F}
    (fresh : AggregateState.new function distinct = wrap none)
    (updates : ∀ current value, (wrap current).update value = wrap <$> updateExtreme wanted current value)
    (finishes : ∀ last, (wrap last).finish = last.getD .null) {dataType : DataType}
    (typed : ∀ value ∈ arguments, value.Fits dataType) (ordered : dataType ≠ .float64)
    (computed : (argumentAggregator function distinct).result arguments = .ok result) :
    taken distinct arguments = [] ∧ result = .null ∨ result ∈ taken distinct arguments ∧
      ∀ value ∈ taken distinct arguments, result = value ∨ result.partialCompare value = some wanted := by
  obtain ⟨final, whole, rfl⟩ := map_eq_ok.mp computed
  have unwrapped (current : Option (ScalarValue F))
      (folded : arguments.foldlM AggregateState.update (wrap current) = .ok final) :
      ∃ last, arguments.foldlM (updateExtreme wanted) current = .ok last ∧ final = wrap last := by
    clear computed typed whole
    induction arguments generalizing current with
    | nil => exact ⟨current, rfl, (pure_eq_ok.mp folded).symm⟩
    | cons value rest ih =>
      simp only [List.foldlM_cons, bind_ok, updates, map_eq_ok] at folded ⊢
      obtain ⟨_, ⟨next, updated, rfl⟩, folded⟩ := folded
      obtain ⟨last, ran, same⟩ := ih next folded
      exact ⟨last, ⟨next, updated, ran⟩, same⟩
  change arguments.foldlM AggregateState.update (.new function distinct) = .ok final at whole
  rw [fresh] at whole
  obtain ⟨last, ran, rfl⟩ := unwrapped none whole
  have shown : (argumentAggregator function distinct).finish (wrap last) = last.getD .null := finishes last
  rw [shown]
  rcases extreme_folded proper typed ordered ran distinct with ⟨rfl, none⟩ | ⟨best, rfl, inside, least⟩
  · exact .inl ⟨none, rfl⟩
  · exact .inr ⟨inside, least⟩

theorem AggregateFunction.Means.unique {values others : List (ScalarValue F)} {other : ScalarValue F}
    (means : function.Means values result) (same : values.Perm others) (meant : function.Means others other)
    {dataType : DataType} (ordered : dataType ≠ .float64)
    (typed : function = .min ∨ function = .max → ∀ value ∈ values, value.dataType = dataType) :
    result = other := by
  have empty : values = [] ↔ others = [] := by
    rw [← List.length_eq_zero_iff, same.length_eq, List.length_eq_zero_iff]
  have extreme {wanted : Ordering} (proper : wanted ≠ .eq) (typed : ∀ value ∈ values, value.dataType = dataType)
      (one : values = [] ∧ result = .null ∨ result ∈ values ∧
        ∀ value ∈ values, result = value ∨ result.partialCompare value = some wanted)
      (two : others = [] ∧ other = .null ∨ other ∈ others ∧
        ∀ value ∈ others, other = value ∨ other.partialCompare value = some wanted) : result = other := by
    rcases one with ⟨none, rfl⟩ | ⟨inside, least⟩
    · rcases two with ⟨_, rfl⟩ | ⟨there, _⟩
      · rfl
      · rw [empty.mp none] at there
        cases there
    · rcases two with ⟨none, _⟩ | ⟨there, lowest⟩
      · rw [empty.mpr none] at inside
        cases inside
      · have known := same.mem_iff.mpr there
        rcases least other known with equal | less
        · exact equal
        rcases lowest result (same.mem_iff.mp inside) with equal | more
        · exact equal.symm
        have first := partialCompare_exact ordered (typed result inside) (typed other known)
        have second := partialCompare_exact ordered (typed other known) (typed result inside)
        rw [Ranked.lt_iff proper first] at less
        rw [Ranked.lt_iff proper second] at more
        exact absurd more (lt_asymm less)
  cases function with
  | count =>
    obtain ⟨total, size, rfl⟩ := means
    obtain ⟨again, sized, rfl⟩ := meant
    rw [Fin.ext (size.trans (same.length_eq.trans sized.symm))]
  | sum =>
    obtain ⟨_, _, rfl⟩ := means
    obtain ⟨_, _, rfl⟩ := meant
    rw [(same.map ScalarValue.integer).sum_eq]
    simp only [empty]
  | min => exact extreme (by decide) (typed (.inl rfl)) means meant
  | max => exact extreme (by decide) (typed (.inr rfl)) means meant
  | avg | sumUInt64 => exact means.elim

end

section

variable [ArrowKernels F]

def DataType.isInteger : DataType → Bool
  | .int32 | .int64 | .uint32 | .uint64 => true
  | _ => false

def DataType.isExact : DataType → Bool
  | .boolean | .utf8 => true
  | dataType => dataType.isInteger

-- The aggregates that have a definition here: over exact types, and sums over integers.
def AggregateSpec.Referenced (scanned : Schema) (spec : AggregateSpec F) : Prop :=
  match spec.1 with
  | .count => spec.2.1 = .wildcard ∨ ∃ dataType, spec.2.1.typeIn scanned = some dataType ∧ dataType.isExact = true
  | .min | .max => ∃ dataType, spec.2.1.typeIn scanned = some dataType ∧ dataType.isExact = true
  | .sum => ∃ dataType, spec.2.1.typeIn scanned = some dataType ∧ dataType.isInteger = true
  | .avg | .sumUInt64 => False

variable {scanned : Schema} {expr : Expr F} {dataType : DataType} {rows : List (Row F)}
  {arguments : List (ScalarValue F)}

omit [ArrowKernels F] in
theorem isExact_of_isInteger (integer : dataType.isInteger = true) : dataType.isExact = true := by
  cases dataType <;> first | rfl | cases integer

omit [ArrowKernels F] in
theorem scalarType_exact (exact : dataType.isExact = true) : dataType.scalarType ≠ .float64 := by
  cases dataType <;> cases exact <;> decide

theorem proper_of_typeIn (typed : expr.typeIn scanned = some dataType) : expr ≠ .wildcard := by
  rintro rfl
  cases typed

theorem arguments_typed (typed : expr.typeIn scanned = some dataType) (admitted : ∀ row ∈ rows, scanned.admits row)
    (read : rows.mapM (argumentIn scanned expr) = .ok arguments) :
    ∀ value ∈ arguments, ReadAs dataType value := by
  intro value member
  obtain ⟨row, inside, found⟩ := forall₂_mem (mapM_ok.mp read) member
  exact argumentIn_readAs (proper_of_typeIn typed) (admitted row inside) typed found

variable {value : ScalarValue F}

omit [ArrowKernels F] in
theorem integers_of_typed (integer : dataType.isInteger = true) (read : ReadAs dataType value) :
    value.IsInteger := by
  rcases read.fits with absent | typed
  · exact .inl absent
  · cases dataType <;> cases integer
    · exact .inr (.inl typed)
    · exact .inr (.inl typed)
    · exact .inr (.inr typed)
    · exact .inr (.inr typed)

variable {spec : AggregateSpec F}

theorem means_of_result [OrderedFloats F] (referenced : spec.Referenced scanned)
    (few : rows.length < 2 ^ 63) (admitted : ∀ row ∈ rows, scanned.admits row) {result : ScalarValue F}
    (computed : (spec.aggregator scanned).result rows = .ok result) :
    ∃ arguments, rows.mapM (argumentIn scanned spec.2.1) = .ok arguments ∧
      spec.1.Means (taken spec.2.2 arguments) result := by
  obtain ⟨function, expr, distinct⟩ := spec
  change ((argumentAggregator function distinct).comap (argumentIn scanned expr)).result rows = .ok result at computed
  obtain ⟨arguments, read, computed⟩ := Aggregator.comap_result computed
  have size : arguments.length = rows.length := (mapM_ok.mp read).length_eq.symm
  refine ⟨arguments, read, ?_⟩
  cases function with
  | count => exact count_means (by omega) computed
  | sum =>
    obtain ⟨dataType, typed, integer⟩ := referenced
    refine sum_means (by omega) (fun value member => integers_of_typed integer ?_) computed
    exact arguments_typed typed admitted read value member
  | min | max =>
    obtain ⟨dataType, typed, exact⟩ := referenced
    have fits value member := (arguments_typed typed admitted read value member).fits
    exact extreme_means (by decide) rfl (fun _ _ => rfl) (fun _ => rfl) fits (scalarType_exact exact) computed
  | avg | sumUInt64 => exact referenced.elim

theorem exists_argument (typed : expr.typeIn scanned = some dataType) (exact : dataType.isExact = true)
    {row : Row F} (admitted : scanned.admits row) : ∃ value, argumentIn scanned expr row = .ok value := by
  have read : argumentIn scanned expr row = valueAt dataType ((expr.valueIn scanned row).getD .null) := by
    unfold argumentIn
    split
    · exact absurd rfl (proper_of_typeIn typed)
    · rw [typed, Option.getD_some]
  rw [read]
  cases found : expr.valueIn scanned row with
  | none => exact ⟨.null, rfl⟩
  | some slot =>
    have slotTyped := Expr.hasType_valueIn admitted typed found
    cases slot with
    | other => cases dataType <;> cases exact <;> cases slotTyped
    | _ => exact ⟨_, rfl⟩

def Ready (function : AggregateFunction) (dataType : DataType) (state : AggregateState F) : Prop :=
  match function with
  | .count => ∃ total set, state = .count total set
  | .sum => ∃ intSum floatSum seen set, state = .sum intSum floatSum seen set
  | .min => ∃ current, state = .min current ∧ ∀ known ∈ current, known.dataType = dataType
  | .max => ∃ current, state = .max current ∧ ∀ known ∈ current, known.dataType = dataType
  | .avg | .sumUInt64 => False

theorem exists_updateExtreme [OrderedFloats F] (ordered : dataType ≠ .float64)
    {current : Option (ScalarValue F)} (typed : ∀ known ∈ current, known.dataType = dataType)
    (fits : value.Fits dataType) :
    ∃ next, updateExtreme wanted current value = .ok next ∧ ∀ known ∈ next, known.dataType = dataType := by
  have decided : ∃ replace, shouldReplaceExtreme wanted current value = .ok replace ∧
      (replace = true → value ≠ .null) := by
    by_cases absent : value = .null
    · exact ⟨false, by simp [shouldReplaceExtreme, absent], nofun⟩
    unfold shouldReplaceExtreme
    rw [if_neg absent]
    cases current with
    | none => exact ⟨true, rfl, fun _ => absent⟩
    | some best =>
      dsimp only
      rw [partialCompare_exact ordered (fits.resolve_left absent) (typed best rfl)]
      exact ⟨_, rfl, fun _ => absent⟩
  obtain ⟨replace, decided, present⟩ := decided
  refine ⟨_, bind_ok.mpr ⟨replace, decided, rfl⟩, fun known member => ?_⟩
  cases replace with
  | false => exact typed known member
  | true =>
    cases member
    exact fits.resolve_left (present rfl)

theorem exists_update [OrderedFloats F] {state : AggregateState F} (ordered : dataType ≠ .float64)
    (ready : Ready function dataType state) (fits : value.Fits dataType)
    (integer : function = .sum → value.IsInteger) :
    ∃ next, state.update value = .ok next ∧ Ready function dataType next := by
  by_cases absent : value = .null ∧ (function = .count ∨ function = .sum)
  · obtain ⟨rfl, rfl | rfl⟩ := absent
    · obtain ⟨total, set, rfl⟩ := ready
      exact ⟨_, rfl, total, set, rfl⟩
    · obtain ⟨intSum, floatSum, seen, set, rfl⟩ := ready
      exact ⟨_, rfl, intSum, floatSum, seen, set, rfl⟩
  cases function with
  | count =>
    obtain ⟨total, set, rfl⟩ := ready
    have present : value ≠ .null := fun null => absent ⟨null, .inl rfl⟩
    rw [AggregateState.update, if_neg present]
    cases insertDistinct set value with
    | none => exact ⟨_, rfl, total, set, rfl⟩
    | some grown => exact ⟨_, rfl, total + 1, grown, rfl⟩
  | sum =>
    obtain ⟨intSum, floatSum, seen, set, rfl⟩ := ready
    have present : value ≠ .null := fun null => absent ⟨null, .inr rfl⟩
    rw [AggregateState.update, if_neg present]
    cases insertDistinct set value with
    | none => exact ⟨_, rfl, intSum, floatSum, seen, set, rfl⟩
    | some grown =>
      have whole := (integer rfl).resolve_left present
      cases value with
      | int64 number | uint64 number => exact ⟨_, rfl, _, floatSum, true, grown, rfl⟩
      | null | boolean | float64 | utf8 => simp [ScalarValue.dataType] at whole
  | min =>
    obtain ⟨current, rfl, typed⟩ := ready
    obtain ⟨next, updated, kept⟩ := exists_updateExtreme ordered typed fits
    exact ⟨.min next, map_eq_ok.mpr ⟨next, updated, rfl⟩, next, rfl, kept⟩
  | max =>
    obtain ⟨current, rfl, typed⟩ := ready
    obtain ⟨next, updated, kept⟩ := exists_updateExtreme ordered typed fits
    exact ⟨.max next, map_eq_ok.mpr ⟨next, updated, rfl⟩, next, rfl, kept⟩
  | avg | sumUInt64 => exact ready.elim

theorem AggregateSpec.Referenced.ready (referenced : spec.Referenced scanned) (dataType : DataType) :
    Ready spec.1 dataType (spec.aggregator scanned).fresh := by
  obtain ⟨function, expr, distinct⟩ := spec
  cases function with
  | count => exact ⟨_, _, rfl⟩
  | sum => exact ⟨_, _, _, _, rfl⟩
  | min | max => exact ⟨none, rfl, by simp⟩
  | avg | sumUInt64 => exact referenced.elim

theorem exists_result [OrderedFloats F] (referenced : spec.Referenced scanned)
    (admitted : ∀ row ∈ rows, scanned.admits row) :
    ∃ result, (spec.aggregator scanned).result rows = .ok result := by
  have argument : ∃ dataType : DataType, dataType ≠ .float64 ∧ ∀ row ∈ rows, ∃ value,
      argumentIn scanned spec.2.1 row = .ok value ∧ value.Fits dataType ∧ (spec.1 = .sum → value.IsInteger) := by
    have typedArgument {dataType : DataType} (typed : spec.2.1.typeIn scanned = some dataType)
        (exact : dataType.isExact = true) (whole : spec.1 = .sum → dataType.isInteger = true) :
        ∃ dataType : DataType, dataType ≠ .float64 ∧ ∀ row ∈ rows, ∃ value,
          argumentIn scanned spec.2.1 row = .ok value ∧ value.Fits dataType ∧ (spec.1 = .sum → value.IsInteger) := by
      refine ⟨dataType.scalarType, scalarType_exact exact, fun row member => ?_⟩
      obtain ⟨value, read⟩ := exists_argument typed exact (admitted row member)
      have known := argumentIn_readAs (proper_of_typeIn typed) (admitted row member) typed read
      exact ⟨value, read, known.fits, fun sum => integers_of_typed (whole sum) known⟩
    obtain ⟨function, expr, distinct⟩ := spec
    cases function with
    | count =>
      rcases referenced with rfl | ⟨dataType, typed, exact⟩
      · exact ⟨.boolean, by decide, fun row _ => ⟨.boolean true, rfl, .inr rfl, nofun⟩⟩
      · exact typedArgument typed exact nofun
    | sum =>
      obtain ⟨dataType, typed, integer⟩ := referenced
      exact typedArgument typed (isExact_of_isInteger integer) fun _ => integer
    | min | max =>
      obtain ⟨dataType, typed, exact⟩ := referenced
      exact typedArgument typed exact nofun
    | avg | sumUInt64 => exact referenced.elim
  obtain ⟨dataType, ordered, each⟩ := argument
  have advances (seen rest : List (Row F)) (row : Row F) (state : AggregateState F) (split : rows = seen ++ row :: rest)
      (ready : Ready spec.1 dataType state) :
      ∃ next, (spec.aggregator scanned).step state row = .ok next ∧ Ready spec.1 dataType next := by
    obtain ⟨value, read, fits, integer⟩ := each row (by simp [split])
    obtain ⟨next, updated, kept⟩ := exists_update ordered ready fits integer
    exact ⟨next, bind_ok.mpr ⟨value, read, updated⟩, kept⟩
  obtain ⟨final, ran, _⟩ := Except.foldlM_total (fun _ state => Ready spec.1 dataType state)
    (referenced.ready dataType) fun seen row rest state split ready => advances seen rest row state split ready
  exact ⟨_, map_eq_ok.mpr ⟨final, ran, rfl⟩⟩

end

section

variable [ArrowKernels F] {input scanned : Schema} {rows : List (Row F)} {result : ScalarValue F}

variable {declared : DataType}

omit [ArrowKernels F] in
theorem numeric_declared {spec : AggregateSpec F} (sum : spec.1 = .sum)
    (expected : spec.declared input = .ok declared) : declared = .float64 := by
  obtain ⟨function, expr, distinct⟩ := spec
  subst sum
  obtain ⟨found, _, known⟩ := bind_ok.mp expected
  rw [lift_ok, AggregateFunction.argumentType] at known
  split at known
  · exact (Except.ok.inj known).symm
  · cases known

theorem scalar_of_slot [OrderedFloats F] (declares : input.Declares scanned) {spec : AggregateSpec F}
    (referenced : spec.Referenced scanned) (expected : spec.declared input = .ok declared)
    (admitted : ∀ row ∈ rows, scanned.admits row) {arguments : List (ScalarValue F)}
    (read : rows.mapM (argumentIn scanned spec.2.1) = .ok arguments)
    (means : spec.1.Means (taken spec.2.2 arguments) result) : (slotOf declared result).scalar = result := by
  have extreme {dataType : DataType} (single : spec.1 = .min ∨ spec.1 = .max)
      (typed : spec.2.1.typeIn scanned = some dataType) (exact : dataType.isExact = true)
      (one : result = .null ∨ result ∈ taken spec.2.2 arguments) : (slotOf declared result).scalar = result := by
    have known : spec.2.1.dataType input = .ok declared := by
      obtain ⟨function, expr, distinct⟩ := spec
      rcases single with rfl | rfl
      · obtain ⟨found, known, ⟨⟩⟩ := bind_ok.mp expected
        exact known
      · obtain ⟨found, known, ⟨⟩⟩ := bind_ok.mp expected
        exact known
    have widens := Expr.typeIn_widens declares typed known
    have held : ReadAs dataType result := by
      rcases one with rfl | inside
      · exact readAs_null dataType
      · exact arguments_typed typed admitted read result (mem_taken.mp inside).1
    refine (Value.scalar_of_valueAt (held.stored widens fun narrow => ?_)).symm
    subst narrow
    rcases widens with rfl | normalized
    · cases exact
    · cases dataType <;> cases exact <;> cases normalized
  cases function : spec.1 with
  | count =>
    rw [function] at means
    obtain ⟨total, _, rfl⟩ := means
    obtain ⟨_, expr, distinct⟩ := spec
    obtain rfl : _ = AggregateFunction.count := function
    cases expected
    rfl
  | sum =>
    rw [function] at means
    obtain ⟨_, _, rfl⟩ := means
    rw [numeric_declared function expected]
    split <;> rfl
  | min | max =>
    rw [function] at means
    rw [AggregateSpec.Referenced, function] at referenced
    obtain ⟨dataType, typed, exact⟩ := referenced
    exact extreme (by simp [function]) typed exact (means.imp And.right And.left)
  | avg | sumUInt64 =>
    rw [AggregateSpec.Referenced, function] at referenced
    exact referenced.elim

end

section

variable [ArrowKernels F] [OrderedFloats F] {input scanned schema : Schema} {batches others : List (RecordBatch F)}
  {groupExprs aggregateExprs : List (Expr F)} {specs : List (AggregateSpec F)} {output : RecordBatch F}

def groupRows (groupExprs : List (Expr F)) (scanned : Schema) (batches : List (RecordBatch F))
    (key : EncodedKey F) : List (Row F) :=
  (rowsOf batches).filter (keyIn groupExprs scanned · = key)

omit [OrderedFloats F] in
theorem itemsOf_keyed (key : EncodedKey F) :
    Grouping.itemsOf key (keyed groupExprs scanned (rowsOf batches)) = groupRows groupExprs scanned batches key := by
  rw [Grouping.itemsOf, keyed, List.filter_map, List.map_map]
  exact List.map_id _

section

variable (uniform : ∀ batch ∈ batches, batch.schema = scanned)
  (planned : aggregateSchema input groupExprs aggregateExprs = .ok schema)
  (done : hashAggregate batches groupExprs aggregateExprs schema = .ok output)

include uniform planned done

omit [OrderedFloats F] in
theorem exists_groups : ∃ specs found, aggregateExprs.mapM aggregateSpec = .ok specs ∧
    (batches ≠ [] → Readable groupExprs (specs.map (·.2.1)) (schema.types.take groupExprs.length) scanned
      (rowsOf batches)) ∧
    Grouping.results (aggregateRows scanned specs) (initialKeys groupExprs.length)
      (keyed groupExprs scanned (rowsOf batches)) = .ok found ∧
    (∀ entry ∈ found, KeyTyped (schema.types.take groupExprs.length) entry.1 ∧ entry.2.length = specs.length) ∧
    outputBatch groupExprs.length specs.length schema found = .ok output ∧
    output.rows = (sortedGroups found).map fun entry =>
      entry.1 ++ stateSlots (schema.types.drop groupExprs.length) entry.2 := by
  obtain ⟨specs, found, named, readable, computed, built⟩ := (hashAggregate_ok uniform).mp done
  have typed := planned_typed uniform planned readable computed
  have width := planned_width planned (mapM_aggregateSpec.mp named)
  exact ⟨specs, found, named, readable, computed, typed, built, ((outputBatch_ok typed width).mp built).2.2.2⟩

end

variable {results : List (ScalarValue F)}

section

variable {rows moved : List (Row F)}

omit [ArrowKernels F] [OrderedFloats F] in
theorem mapM_perm {read : Row F → Except SparkXError (ScalarValue F)} (same : rows.Perm moved)
    {values others : List (ScalarValue F)} (here : rows.mapM read = .ok values)
    (there : moved.mapM read = .ok others) : values.Perm others := by
  have listed {items : List (Row F)} {found : List (ScalarValue F)} (read_ok : items.mapM read = .ok found) :
      found = items.map fun row => (read row).toOption.getD .null := by
    refine forall₂_eq.mp ((mapM_ok.mp read_ok).imp fun row value found => ?_)
    rw [found]
    rfl
  rw [listed here, listed there]
  exact same.map _

theorem result_perm {spec : AggregateSpec F} (referenced : spec.Referenced scanned)
    (admitted : ∀ row ∈ rows, scanned.admits row) (few : rows.length < 2 ^ 63) (same : rows.Perm moved)
    {result : ScalarValue F} (computed : (spec.aggregator scanned).result rows = .ok result) :
    (spec.aggregator scanned).result moved = .ok result := by
  have admittedMoved : ∀ row ∈ moved, scanned.admits row := fun row member => admitted row (same.mem_iff.mpr member)
  obtain ⟨other, again⟩ := exists_result referenced admittedMoved
  obtain ⟨arguments, read, means⟩ := means_of_result referenced few admitted computed
  obtain ⟨others, reread, meant⟩ := means_of_result referenced (same.length_eq ▸ few) admittedMoved again
  have unique (dataType : DataType) (ordered : dataType ≠ .float64)
      (typed : spec.1 = .min ∨ spec.1 = .max → ∀ value ∈ taken spec.2.2 arguments, value.dataType = dataType) :
      result = other :=
    means.unique (taken_perm spec.2.2 (mapM_perm same read reread)) meant ordered typed
  by_cases extreme : spec.1 = .min ∨ spec.1 = .max
  · have known : ∃ dataType, spec.2.1.typeIn scanned = some dataType ∧ dataType.isExact = true := by
      rcases extreme with single | single <;> rw [AggregateSpec.Referenced, single] at referenced <;> exact referenced
    obtain ⟨dataType, typed, exact⟩ := known
    rw [unique _ (scalarType_exact exact) fun _ value inside => ?_, again]
    have ⟨member, present⟩ := mem_taken.mp inside
    exact (arguments_typed typed admitted read value member).fits.resolve_left present
  · rw [unique .null (by decide) fun single => absurd single extreme, again]

theorem aggregateRows_perm (referenced : ∀ spec ∈ specs, spec.Referenced scanned)
    (admitted : ∀ row ∈ rows, scanned.admits row) (few : rows.length < 2 ^ 63) (same : rows.Perm moved)
    (computed : aggregateRows scanned specs rows = .ok results) :
    aggregateRows scanned specs moved = .ok results := by
  rw [aggregateRows, mapM_ok] at computed ⊢
  exact forall₂_imp_mem (fun spec result member => result_perm (referenced spec member) admitted few same)
    computed

end

-- The other batches give the result too. Only where there was no batch at all may they fail: then
-- nothing says that the expressions can be evaluated.
def Repeats (groupExprs aggregateExprs : List (Expr F)) (schema : Schema) (batches : List (RecordBatch F))
    (output : RecordBatch F) (others : List (RecordBatch F)) : Prop :=
  ((others ≠ [] → batches ≠ []) → hashAggregate others groupExprs aggregateExprs schema = .ok output) ∧
    ∀ again, hashAggregate others groupExprs aggregateExprs schema = .ok again → again = output

theorem hashAggregate_moved (uniform : ∀ batch ∈ batches, batch.schema = scanned)
    (otherUniform : ∀ batch ∈ others, batch.schema = scanned)
    (planned : aggregateSchema input groupExprs aggregateExprs = .ok schema)
    (same : (rowsOf batches).Perm (rowsOf others)) (batched : others ≠ [] → batches ≠ [])
    (named : aggregateExprs.mapM aggregateSpec = .ok specs)
    (moves : ∀ key results, aggregateRows scanned specs (groupRows groupExprs scanned batches key) = .ok results →
      aggregateRows scanned specs (groupRows groupExprs scanned others key) = .ok results)
    (done : hashAggregate batches groupExprs aggregateExprs schema = .ok output) :
    hashAggregate others groupExprs aggregateExprs schema = .ok output := by
  obtain ⟨known, found, named', readable, computed, typed, built, _⟩ := exists_groups uniform planned done
  obtain rfl := Except.ok.inj (named.symm.trans named')
  have keys {key : EncodedKey F} :
      key ∈ Grouping.keysOf (initialKeys groupExprs.length) (keyed groupExprs scanned (rowsOf others)) ↔
        key ∈ Grouping.keysOf (initialKeys groupExprs.length) (keyed groupExprs scanned (rowsOf batches)) := by
    simp only [Grouping.mem_keysOf, keyed, List.map_map, List.mem_map, same.mem_iff]
  have distinct : (initialKeys groupExprs.length : List (EncodedKey F)).Nodup := nodup_initialKeys _
  have computable : ∀ key ∈ Grouping.keysOf (initialKeys groupExprs.length) (keyed groupExprs scanned (rowsOf others)),
      ∃ results, aggregateRows scanned specs
        (Grouping.itemsOf key (keyed groupExprs scanned (rowsOf others))) = .ok results := by
    intro key inside
    obtain ⟨results, here⟩ := Grouping.exists_results.mp ⟨found, computed⟩ key (keys.mp inside)
    rw [itemsOf_keyed] at here
    exact ⟨results, (itemsOf_keyed key).symm ▸ moves key results here⟩
  obtain ⟨again, recomputed⟩ := Grouping.exists_results.mpr computable
  have perm : found.Perm again := by
    refine (List.perm_ext_iff_of_nodup (.of_map _ (Grouping.nodup_results distinct computed))
      (.of_map _ (Grouping.nodup_results distinct recomputed))).mpr ?_
    rintro ⟨key, results⟩
    rw [Grouping.mem_results computed, Grouping.mem_results recomputed, keys, itemsOf_keyed, itemsOf_keyed]
    refine and_congr_right fun inside => ⟨moves key results, fun there => ?_⟩
    obtain ⟨first, here⟩ := Grouping.exists_results.mp ⟨found, computed⟩ key inside
    rw [itemsOf_keyed] at here
    rw [here, Except.ok.inj ((moves key first here).symm.trans there)]
  have reread : others ≠ [] → Readable groupExprs (specs.map (·.2.1)) (schema.types.take groupExprs.length) scanned
      (rowsOf others) := by
    intro some
    have here := readable (batched some)
    exact ⟨here.keyTypes, fun expr member row inside => here.keyValues expr member row (same.mem_iff.mpr inside),
      fun expr member proper => ⟨(here.arguments expr member proper).1, fun row inside =>
        (here.arguments expr member proper).2 row (same.mem_iff.mpr inside)⟩⟩
  refine (hashAggregate_ok otherUniform).mpr ⟨specs, again, named, reread, recomputed, ?_⟩
  rw [← outputBatch_perm (fun entry member => (typed entry member).1) (Grouping.nodup_results distinct computed) perm]
  exact built

theorem repeats_of_moved (uniform : ∀ batch ∈ batches, batch.schema = scanned)
    (otherUniform : ∀ batch ∈ others, batch.schema = scanned)
    (planned : aggregateSchema input groupExprs aggregateExprs = .ok schema)
    (same : (rowsOf batches).Perm (rowsOf others)) (named : aggregateExprs.mapM aggregateSpec = .ok specs)
    (moves : ∀ key results, aggregateRows scanned specs (groupRows groupExprs scanned batches key) = .ok results ↔
      aggregateRows scanned specs (groupRows groupExprs scanned others key) = .ok results)
    (done : hashAggregate batches groupExprs aggregateExprs schema = .ok output) :
    Repeats groupExprs aggregateExprs schema batches output others := by
  have forward batched := hashAggregate_moved uniform otherUniform planned same batched named
    (fun key results => (moves key results).mp) done
  refine ⟨forward, fun again ran => ?_⟩
  by_cases batched : others ≠ [] → batches ≠ []
  · exact Except.ok.inj (ran.symm.trans (forward batched))
  · have none : batches = [] := by grind
    have back := hashAggregate_moved otherUniform uniform planned same.symm (fun some => absurd none some) named
      (fun key results => (moves key results).mpr) ran
    exact Except.ok.inj (back.symm.trans done)

omit [OrderedFloats F] in
theorem single_key {keys : List (EncodedKey F)} (single : ∀ key ∈ keys, key = []) (present : [] ∈ keys)
    (strict : keys.Pairwise (compareKeys · · = .lt)) : keys.length = 1 := by
  match keys with
  | [] => cases present
  | [_] => rfl
  | first :: second :: _ =>
    have less := List.rel_of_pairwise_cons strict List.mem_cons_self
    rw [single first (by simp), single second (by simp)] at less
    cases less

section

variable {found : List (EncodedKey F × List (ScalarValue F))}

omit [OrderedFloats F] in
theorem shown_keys {states : List DataType} {width : Nat}
    (sized : ∀ entry ∈ found, entry.1.length = width) :
    ((sortedGroups found).map fun entry => entry.1 ++ stateSlots states entry.2).map (·.take width) =
      (sortedGroups found).map (·.1) := by
  rw [List.map_map]
  refine List.map_congr_left fun entry member => ?_
  exact List.take_left' (sized entry ((sortedGroups_perm found).mem_iff.mp member))

omit [OrderedFloats F] in
theorem mem_shown_keys (computed : Grouping.results (aggregateRows scanned specs) (initialKeys groupExprs.length)
      (keyed groupExprs scanned (rowsOf batches)) = .ok found) (key : EncodedKey F) :
    key ∈ (sortedGroups found).map (·.1) ↔
      groupExprs = [] ∧ key = [] ∨ ∃ row ∈ rowsOf batches, keyIn groupExprs scanned row = key := by
  rw [((sortedGroups_perm found).map _).mem_iff, (Grouping.results_ok.mp computed).1, Grouping.mem_keysOf]
  simp only [initialKeys, keyed, List.map_map, List.mem_map, Function.comp_def, List.length_eq_zero_iff]
  refine or_congr_left ?_
  split
  next none => simp [none]
  next some => simp [some]

theorem shown_cell (declares : input.Declares scanned)
    (planned : aggregateSchema input groupExprs aggregateExprs = .ok schema)
    (named : List.Forall₂ Names aggregateExprs specs) {rows : List (Row F)}
    (admitted : ∀ row ∈ rows, scanned.admits row) (few : rows.length < 2 ^ 63) {key : EncodedKey F}
    (sized : key.length = groupExprs.length) (computed : aggregateRows scanned specs rows = .ok results)
    {index : Nat} {spec : AggregateSpec F} (present : specs[index]? = some spec)
    (referenced : spec.Referenced scanned) :
    ∃ arguments, rows.mapM (argumentIn scanned spec.2.1) = .ok arguments ∧
      spec.1.Means (taken spec.2.2 arguments)
        ((key ++ stateSlots (schema.types.drop groupExprs.length) results).getD (groupExprs.length + index) .null).scalar := by
  obtain ⟨result, resultHere, aggregated⟩ := forall₂_getElem? (mapM_ok.mp computed) present
  obtain ⟨declared, typeHere, expected⟩ := forall₂_getElem? (specs_declared planned named) present
  obtain ⟨arguments, read, means⟩ := means_of_result referenced few admitted aggregated
  refine ⟨arguments, read, ?_⟩
  have cell : (key ++ stateSlots (schema.types.drop groupExprs.length) results).getD (groupExprs.length + index) .null =
      slotOf declared result := by
    rw [List.getD_eq_getElem?_getD, List.getElem?_append_right (by omega), sized, Nat.add_sub_cancel_left, stateSlots,
      List.getElem?_zipWith, typeHere, resultHere]
    rfl
  rw [cell, scalar_of_slot declares referenced expected admitted read means]
  exact means

end

theorem hashAggregate_means (uniform : ∀ batch ∈ batches, batch.schema = scanned) (declares : input.Declares scanned)
    (planned : aggregateSchema input groupExprs aggregateExprs = .ok schema)
    (few : (rowsOf batches).length < 2 ^ 63)
    (done : hashAggregate batches groupExprs aggregateExprs schema = .ok output) :
    ∃ specs : List (AggregateSpec F), aggregateExprs.mapM aggregateSpec = .ok specs ∧
      (output.rows.map (·.take groupExprs.length)).Pairwise (compareKeys · · = .lt) ∧
      (∀ key, key ∈ output.rows.map (·.take groupExprs.length) ↔
        groupExprs = [] ∧ key = [] ∨ ∃ row ∈ rowsOf batches, keyIn groupExprs scanned row = key) ∧
      (groupExprs = [] → output.rows.length = 1) ∧
      (∀ row ∈ output.rows, ∀ index spec, specs[index]? = some spec → AggregateSpec.Referenced scanned spec →
        ∃ arguments, (groupRows groupExprs scanned batches (row.take groupExprs.length)).mapM
            (argumentIn scanned spec.2.1) = .ok arguments ∧
          spec.1.Means (taken spec.2.2 arguments) (row.getD (groupExprs.length + index) .null).scalar) ∧
      (∀ others, (∀ batch ∈ others, batch.schema = scanned) → rowsOf others = rowsOf batches →
        Repeats groupExprs aggregateExprs schema batches output others) ∧
      ((∀ spec ∈ specs, AggregateSpec.Referenced scanned spec) → ∀ others, (∀ batch ∈ others, batch.schema = scanned) →
        (rowsOf others).Perm (rowsOf batches) → Repeats groupExprs aggregateExprs schema batches output others) := by
  obtain ⟨specs, found, named, readable, computed, typed, built, rows⟩ := exists_groups uniform planned done
  have admitted := admitted_rows uniform
  have sized : ∀ entry ∈ found, entry.1.length = groupExprs.length := fun entry member =>
    (typed entry member).1.length_eq.symm.trans (planned_keyWidth planned)
  have keys : output.rows.map (·.take groupExprs.length) = (sortedGroups found).map (·.1) :=
    rows ▸ shown_keys sized
  have strict : ((sortedGroups found).map (·.1)).Pairwise (compareKeys · · = .lt) :=
    List.pairwise_map.mpr (sortGroups_strict (fun entry member => (typed entry member).1)
      (Grouping.nodup_results (nodup_initialKeys _) computed))
  have known := mem_shown_keys computed
  have admittedGroup (key : EncodedKey F) : ∀ row ∈ groupRows groupExprs scanned batches key, scanned.admits row :=
    fun row member => admitted row (List.mem_of_mem_filter member)
  have fewGroup (key : EncodedKey F) : (groupRows groupExprs scanned batches key).length < 2 ^ 63 :=
    Nat.lt_of_le_of_lt (List.length_filter_le ..) few
  rw [← keys] at strict known
  refine ⟨specs, named, strict, known, ?_, ?_, ?_, ?_⟩
  · intro global
    have single : ∀ key ∈ output.rows.map (·.take groupExprs.length), key = [] := by
      intro key member
      rcases (known key).mp member with ⟨_, empty⟩ | ⟨row, _, rfl⟩
      · exact empty
      · rw [global]
        rfl
    have present := (known []).mpr (.inl ⟨global, rfl⟩)
    rw [← single_key single present strict, List.length_map]
  · intro row member index spec present referenced
    rw [rows] at member
    obtain ⟨entry, inside, rfl⟩ := List.mem_map.mp member
    have listed := (sortedGroups_perm found).mem_iff.mp inside
    have aggregated := (Grouping.results_ok.mp computed).2 entry listed
    rw [itemsOf_keyed] at aggregated
    rw [List.take_left' (sized entry listed)]
    exact shown_cell declares planned (mapM_aggregateSpec.mp named) (admittedGroup _) (fewGroup _)
      (sized entry listed) aggregated present referenced
  · intro others otherUniform same
    refine repeats_of_moved uniform otherUniform planned (.of_eq same.symm) named (fun key results => ?_) done
    rw [groupRows, groupRows, same]
  · intro referenced others otherUniform same
    refine repeats_of_moved uniform otherUniform planned same.symm named (fun key results => ?_) done
    have moved : (groupRows groupExprs scanned others key).Perm (groupRows groupExprs scanned batches key) :=
      same.filter _
    have movedAdmitted : ∀ row ∈ groupRows groupExprs scanned others key, scanned.admits row :=
      fun row member => admittedGroup key row (moved.mem_iff.mp member)
    exact ⟨aggregateRows_perm referenced (admittedGroup key) (fewGroup key) moved.symm,
      aggregateRows_perm referenced movedAdmitted (moved.length_eq ▸ fewGroup key) moved⟩

end

namespace ReferenceSample

-- Three groups in two batches, with a NULL key, repeated values and an empty batch between them.

def scanned : Schema := { fields := [⟨"k", .utf8, true, .empty⟩, ⟨"v", .uint32, true, .empty⟩] }

def first : RecordBatch ℚ :=
  { schema := scanned
    rows := [[.utf8 "b", .uint32 7], [.null, .uint32 2], [.utf8 "b", .null]]
    typed := by decide }

def second : RecordBatch ℚ :=
  { schema := scanned, rows := [[.utf8 "b", .uint32 7], [.utf8 "a", .uint32 5]], typed := by decide }

def groups : List (Expr ℚ) := [.column "k"]

def aggregates : List (Expr ℚ) :=
  [.aggregate .count .wildcard false, .aggregate .count (.column "v") true, .aggregate .sum (.column "v") false,
    .aggregate .min (.column "v") false]

def schema : Schema :=
  { fields := [⟨"k", .utf8, true, .empty⟩, ⟨"COUNT(*)", .uint64, true, .empty⟩, ⟨"COUNT(#v)", .uint64, true, .empty⟩,
      ⟨"SUM(#v)", .float64, true, .empty⟩, ⟨"MIN(#v)", .uint32, true, .empty⟩] }

end ReferenceSample

open ReferenceSample in
theorem hashAggregate_means_sample :
    ∃ output, hashAggregate [first, .newEmpty scanned, second] groups aggregates schema = .ok output ∧
      output.rows = [[.null, .uint64 1, .uint64 1, .float64 2, .uint32 2],
        [.utf8 "a", .uint64 1, .uint64 1, .float64 5, .uint32 5],
        [.utf8 "b", .uint64 3, .uint64 1, .float64 14, .uint32 7]] ∧
      hashAggregate [second, first] groups aggregates schema = .ok output := by
  have whole : (hashAggregate [first, .newEmpty scanned, second] groups aggregates schema).toOption.map (·.rows) =
      some [[.null, .uint64 1, .uint64 1, .float64 2, .uint32 2],
        [.utf8 "a", .uint64 1, .uint64 1, .float64 5, .uint32 5],
        [.utf8 "b", .uint64 3, .uint64 1, .float64 14, .uint32 7]] := by decide +kernel
  obtain ⟨output, computed, rows⟩ := Option.map_eq_some_iff.mp whole
  have done := Operator.toOption_eq_some.mp computed
  obtain ⟨specs, named, _, _, _, _, _, moved⟩ := hashAggregate_means (by decide) (Schema.declares_self scanned) rfl
    (by decide) done
  obtain rfl : specs = [(.count, .wildcard, false), (.count, .column "v", true), (.sum, .column "v", false),
    (.min, .column "v", false)] := (Except.ok.inj named).symm
  have referenced : ∀ spec ∈ ([(.count, .wildcard, false), (.count, .column "v", true), (.sum, .column "v", false),
      (.min, .column "v", false)] : List (AggregateSpec ℚ)), AggregateSpec.Referenced scanned spec := by
    simp only [List.forall_mem_cons]
    exact ⟨.inl rfl, .inr ⟨.uint32, rfl, rfl⟩, ⟨.uint32, rfl, rfl⟩, ⟨.uint32, rfl, rfl⟩, nofun⟩
  exact ⟨output, done, rows, (moved referenced [second, first] (by decide) (by decide)).1 (by decide)⟩

end SparkX
