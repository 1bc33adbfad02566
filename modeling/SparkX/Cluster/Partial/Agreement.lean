import SparkX.Cluster.Partial.Split

set_option autoImplicit false

namespace SparkX

open Rowwise

variable {F : Type} [ArrowKernels F]

omit [ArrowKernels F] in
theorem split_width (spec : AggregateSpec F) : spec.split.length = spec.1.partialWidth := by
  obtain ⟨function, expr, distinct⟩ := spec
  cases function <;> rfl

omit [ArrowKernels F] in
theorem exists_mem_split (spec : AggregateSpec F) : ∃ part, part ∈ spec.split := by
  obtain ⟨function, expr, distinct⟩ := spec
  cases function <;> exact ⟨_, List.mem_cons_self⟩

variable {spec part : AggregateSpec F}

omit [ArrowKernels F] in
theorem mem_split (member : part ∈ spec.split) :
    part.2 = spec.2 ∧ part.1 ≠ .avg ∧ (spec.1 ≠ .sumUInt64 → part.1 ≠ .sumUInt64) := by
  obtain ⟨function, expr, distinct⟩ := spec
  cases function <;> simp [AggregateSpec.split] at member
  case avg => rcases member with rfl | rfl <;> simp
  all_goals simp [member]

omit [ArrowKernels F] in
theorem layout_found {specs parts : List (AggregateSpec F)} {column : Nat}
    (here : parts.drop column = specs.flatMap AggregateSpec.split) :
    List.Forall₂ (fun spec entry => entry.1 = spec.1 ∧
        ∀ offset part, spec.split[offset]? = some part → parts[entry.2 + offset]? = some part)
      specs (partialLayout column (specs.map (·.1))) := by
  induction specs generalizing column with
  | nil => exact .nil
  | cons spec rest ih =>
    rw [List.flatMap_cons] at here
    refine .cons ⟨rfl, fun offset part found => ?_⟩ (ih ?_)
    · have inside := (List.getElem?_eq_some_iff.mp found).1
      rw [← List.getElem?_drop, here, List.getElem?_append_left inside, found]
    · rw [← List.drop_drop, here, ← split_width, List.drop_left]

section

variable [ExactFloats F]

omit [ExactFloats F] in
theorem Argued.single {specs : List (AggregateSpec F)} {scanned : Schema} {row : Row F}
    (argued : Argued specs scanned row) (member : spec ∈ specs) (same : part.2 = spec.2) :
    Argued [part] scanned row := by
  refine ⟨argued.1, fun other inside proper => ?_⟩
  obtain rfl := List.mem_singleton.mp inside
  rw [same] at proper ⊢
  exact argued.2 spec member proper

section

variable {input scanned : Schema} {specs : List (AggregateSpec F)} {types : List DataType}

theorem slots_found (declares : input.Declares scanned)
    (offered : ∀ spec ∈ specs, spec.2.2 = false ∧ spec.1 ≠ .sumUInt64)
    (declared : List.Forall₂ (fun part dataType => part.declared input = .ok dataType)
      (specs.flatMap AggregateSpec.split) types) {rows : List (Row F)}
    (argued : ∀ row ∈ rows, Argued specs scanned row) {slots : List (Value F)}
    (computed : stateSlots types <$> aggregateRows scanned (specs.flatMap AggregateSpec.split) rows =
      .ok slots) {index : Nat} (here : (specs.flatMap AggregateSpec.split)[index]? = some part) :
    Found scanned types index part rows slots := by
  obtain ⟨values, evaluated, rfl⟩ := map_eq_ok.mp computed
  obtain ⟨result, stored, found⟩ := forall₂_getElem? (mapM_ok.mp evaluated) here
  obtain ⟨dataType, typed, expected⟩ := forall₂_getElem? declared here
  obtain ⟨spec, member, inside⟩ := List.mem_flatMap.mp (List.mem_of_getElem? here)
  obtain ⟨same, single, kept⟩ := mem_split inside
  have survives := stored_result declares (same ▸ (offered spec member).1) single
    (kept (offered spec member).2) expected (fun row there => (argued row there).single member same) found
  have slot : (stateSlots types values).getD index .null = slotOf dataType result := by
    rw [stateSlots, List.getD_eq_getElem?_getD, List.getElem?_zipWith, typed, stored]
    rfl
  exact ⟨result, found, bind_ok.mpr ⟨dataType, expect_ok.mpr typed, lift_ok.mpr (slot ▸ survives)⟩⟩

theorem specs_split (declares : input.Declares scanned)
    (offered : ∀ spec ∈ specs, spec.2.2 = false ∧ spec.1 ≠ .sumUInt64)
    (declared : List.Forall₂ (fun part dataType => part.declared input = .ok dataType)
      (specs.flatMap AggregateSpec.split) types) :
    Grouping.Splits (Argued specs scanned) (2 ^ 64) (aggregateRows scanned specs)
      (fun rows => stateSlots types <$> aggregateRows scanned (specs.flatMap AggregateSpec.split) rows)
      (mergeRows types (specs.map (·.1))) where
  parts := by
    intro columns result argued computed rows inside
    have each : ∀ part ∈ specs.flatMap AggregateSpec.split,
        ∃ found, (part.aggregator scanned).result rows = .ok found := by
      intro part member
      obtain ⟨spec, known, split⟩ := List.mem_flatMap.mp member
      obtain ⟨found, _, here⟩ := forall₂_item (mapM_ok.mp computed) known
      exact spec_parts (offered spec known).1 (offered spec known).2
        (fun row there => (argued row there).single known rfl) here inside split
    obtain ⟨values, pointwise⟩ := forall₂_exists each
    exact ⟨_, map_eq_ok.mpr ⟨values, mapM_ok.mpr pointwise, rfl⟩⟩
  whole := by
    intro columns found arrived argued few computed same
    have merged : List.Forall₂ (fun spec entry => ∃ result,
        (spec.aggregator scanned).result columns.flatten = .ok result ∧
          (merger types entry).result arrived = .ok result) specs (partialLayout 0 (specs.map (·.1))) := by
      refine forall₂_imp_mem ?_ (layout_found List.drop_zero)
      rintro spec ⟨_, column⟩ member ⟨rfl, parts⟩
      refine spec_merges (offered spec member).1 (offered spec member).2 few
        (fun row there => (argued row there).single member rfl) (fun offset part here => ?_) same
      refine forall₂_imp_mem (fun rows slots inside found => ?_) computed
      exact slots_found declares offered declared
        (fun row there => argued row (List.mem_flatten.mpr ⟨rows, inside, there⟩)) found
        (parts offset part here)
    obtain ⟨results, wholly, together⟩ := forall₂_common merged
    exact ⟨results, mapM_ok.mpr wholly, mapM_ok.mpr together⟩

end

end

section

theorem partialAggregate_ok {index : Nat} {expr : Expr F} {parts : List (Expr F)}
    (found : partialAggregate index expr = .ok parts) :
    ∃ spec : AggregateSpec F, Names expr spec ∧ List.Forall₂ Names parts spec.split := by
  unfold partialAggregate at found
  split at found
  next argument distinct here =>
    cases found
    exact ⟨(.avg, argument, distinct), here, .cons rfl (.cons rfl .nil)⟩
  next function argument distinct single here =>
    cases found
    refine ⟨(function, argument, distinct), here, ?_⟩
    cases function with
    | avg => exact (single rfl).elim
    | _ => exact .cons rfl .nil
  next => cases found

theorem exists_partialAggregate {expr : Expr F} (named : Names expr spec) (index : Nat) :
    ∃ parts, partialAggregate index expr = .ok parts := by
  obtain ⟨function, argument, distinct⟩ := spec
  unfold partialAggregate
  rw [named]
  cases function <;> exact ⟨_, rfl⟩

variable {aggregates : List (Expr F)}

theorem partialAggregateExprs_ok {partials : List (Expr F)}
    (found : partialAggregateExprs aggregates = .ok partials) :
    ∃ specs : List (AggregateSpec F), List.Forall₂ Names aggregates specs ∧
      List.Forall₂ Names partials (specs.flatMap AggregateSpec.split) := by
  simp only [partialAggregateExprs, bind_ok, pure_eq_ok, mapM_ok] at found
  obtain ⟨pieces, each, rfl⟩ := found
  have split : List.Forall₂ (fun entry parts => ∃ spec : AggregateSpec F, Names entry.1 spec ∧
      List.Forall₂ Names parts spec.split) aggregates.zipIdx pieces :=
    each.imp fun _ _ => partialAggregate_ok
  obtain ⟨specs, named, parts⟩ := forall₂_common split
  refine ⟨specs, ?_, List.rel_flatten (List.forall₂_map_right_iff.mpr parts)⟩
  have items : List.Forall₂ Names (aggregates.zipIdx.map (·.1)) specs := List.forall₂_map_left_iff.mpr named
  rwa [List.zipIdx_map_fst] at items

theorem exists_partialAggregateExprs {specs : List (AggregateSpec F)}
    (named : List.Forall₂ Names aggregates specs) :
    ∃ partials, partialAggregateExprs aggregates = .ok partials := by
  have each : ∀ entry ∈ aggregates.zipIdx, ∃ parts, partialAggregate entry.2 entry.1 = .ok parts := by
    intro entry member
    obtain ⟨spec, _, here⟩ := forall₂_item named (List.fst_mem_of_mem_zipIdx member)
    exact exists_partialAggregate here entry.2
  obtain ⟨pieces, found⟩ := forall₂_exists each
  exact ⟨pieces.flatten, bind_ok.mpr ⟨pieces, mapM_ok.mpr found, rfl⟩⟩

theorem mapM_aggregateFunction {functions : List AggregateFunction} :
    aggregates.mapM aggregateFunction = .ok functions ↔
      ∃ specs, List.Forall₂ Names aggregates specs ∧ specs.map (·.1) = functions := by
  have each (expr : Expr F) (function : AggregateFunction) : aggregateFunction expr = .ok function ↔
      ∃ spec : AggregateSpec F, Names expr spec ∧ spec.1 = function := by
    unfold aggregateFunction Names
    split
    next found => simp [found]
    next other =>
      constructor
      · exact nofun
      · rintro ⟨spec, found, _⟩
        exact (other _ _ _ found).elim
  simp only [mapM_ok, each, forall₂_map]

section

variable {input schema : Schema} {groups aggregates partials : List (Expr F)} {specs : List (AggregateSpec F)}

omit [ArrowKernels F] in
theorem numeric_argument {function : AggregateFunction} (numeric : function = .sum ∨ function = .avg)
    {argument dataType : DataType} :
    function.argumentType argument = .ok dataType ↔ argument.isNumeric = true ∧ dataType = .float64 := by
  rcases numeric with rfl | rfl <;> cases argument <;>
    simp [AggregateFunction.argumentType, DataType.isNumeric, eq_comm]

omit [ArrowKernels F] in
theorem split_declared {dataType : DataType} (expected : spec.declared input = .ok dataType) :
    ∃ types, List.Forall₂ (fun part dataType => part.declared input = .ok dataType) spec.split types ∧
      (dataType.isBuildable = true → ∀ part ∈ types, part.isBuildable = true) := by
  have whole (single : spec.split = [spec]) : ∃ types, List.Forall₂ (fun part dataType =>
      part.declared input = .ok dataType) spec.split types ∧
      (dataType.isBuildable = true → ∀ part ∈ types, part.isBuildable = true) := by
    rw [single]
    exact ⟨[dataType], .cons expected .nil, by simp⟩
  obtain ⟨function, argument, distinct⟩ := spec
  cases function with
  | avg =>
    obtain ⟨found, typed, known⟩ := bind_ok.mp expected
    obtain ⟨numeric, rfl⟩ := (numeric_argument (.inr rfl)).mp (lift_ok.mp known)
    have sum : (Expr.aggregate .sum argument distinct).dataType input = .ok .float64 :=
      bind_ok.mpr ⟨found, typed, lift_ok.mpr ((numeric_argument (.inl rfl)).mpr ⟨numeric, rfl⟩)⟩
    refine ⟨[.float64, .uint64], .cons sum (.cons rfl .nil), fun _ => ?_⟩
    simp [DataType.isBuildable]
  | _ => exact whole rfl

theorem exists_partialSchema (planned : aggregateSchema input groups aggregates = .ok schema)
    (named : List.Forall₂ Names aggregates specs)
    (parts : List.Forall₂ Names partials (specs.flatMap AggregateSpec.split)) :
    ∃ partialSchema types, aggregateSchema input groups partials = .ok partialSchema ∧
      partialSchema.types = schema.types.take groups.length ++ types ∧
      List.Forall₂ (fun part dataType => part.declared input = .ok dataType)
        (specs.flatMap AggregateSpec.split) types ∧
      ((∀ dataType ∈ schema.types.drop groups.length, dataType.isBuildable = true) →
        ∀ dataType ∈ types, dataType.isBuildable = true) := by
  have split := (specs_declared planned named).imp fun _ _ => split_declared
  obtain ⟨chunks, declared, kept⟩ := forall₂_common (split.imp fun _ _ => id)
  have known : List.Forall₂ (fun part dataType => part.declared input = .ok dataType)
      (specs.flatMap AggregateSpec.split) chunks.flatten := forall₂_flatMap.mpr ⟨chunks, declared, rfl⟩
  have keys := List.forall₂_take groups.length (aggregateSchema_types planned)
  rw [List.take_left] at keys
  have exprs : List.Forall₂ (fun expr dataType => expr.dataType input = .ok dataType) partials chunks.flatten := by
    refine (forall₂_comp.mpr ⟨_, parts, known⟩).imp fun expr dataType found => ?_
    obtain ⟨part, here, typed⟩ := found
    rw [dataType_of_unalias here, typed]
  obtain ⟨partialSchema, made, types⟩ := exists_aggregateSchema (List.rel_append keys exprs)
  refine ⟨partialSchema, chunks.flatten, made, types, known, fun buildable dataType member => ?_⟩
  obtain ⟨chunk, inside, here⟩ := List.mem_flatten.mp member
  obtain ⟨original, present, still⟩ := forall₂_mem kept inside
  exact still (buildable original present) dataType here

end

end

end SparkX
