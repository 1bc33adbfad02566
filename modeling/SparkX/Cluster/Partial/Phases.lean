import SparkX.Cluster.Partial.Agreement

set_option autoImplicit false

namespace SparkX

open Rowwise

variable {F : Type} [ArrowKernels F]

section

variable {groupExprs : List (Expr F)} {scanned : Schema} {types : List DataType}

theorem readable_split {specs : List (AggregateSpec F)} {rows : List (Row F)} :
    Readable groupExprs (specs.map (·.2.1)) types scanned rows ↔
      Readable groupExprs ((specs.flatMap AggregateSpec.split).map (·.2.1)) types scanned rows := by
  have arguments (expr : Expr F) : expr ∈ specs.map (·.2.1) ↔
      expr ∈ (specs.flatMap AggregateSpec.split).map (·.2.1) := by
    simp only [List.mem_map, List.mem_flatMap]
    constructor
    · rintro ⟨spec, member, rfl⟩
      obtain ⟨part, inside⟩ := exists_mem_split spec
      exact ⟨part, ⟨spec, member, inside⟩, congrArg (·.1) (mem_split inside).1⟩
    · rintro ⟨part, ⟨spec, member, inside⟩, rfl⟩
      exact ⟨spec, member, congrArg (·.1) (mem_split inside).1.symm⟩
  constructor
  · rintro ⟨keyTypes, keyValues, each⟩
    exact ⟨keyTypes, keyValues, fun expr member => each expr ((arguments expr).mpr member)⟩
  · rintro ⟨keyTypes, keyValues, each⟩
    exact ⟨keyTypes, keyValues, fun expr member => each expr ((arguments expr).mp member)⟩

theorem argued_rows {specs : List (AggregateSpec F)} {batches : List (RecordBatch F)}
    (uniform : ∀ batch ∈ batches, batch.schema = scanned)
    (readable : batches ≠ [] → Readable groupExprs (specs.map (·.2.1)) types scanned (rowsOf batches)) :
    ∀ row ∈ rowsOf batches, Argued specs scanned row := by
  intro row member
  obtain ⟨batch, inside, here⟩ := List.mem_flatMap.mp member
  have read := readable (List.ne_nil_of_mem inside)
  exact ⟨uniform batch inside ▸ batch.typed row here, fun spec known proper =>
    (read.arguments _ (List.mem_map_of_mem known) proper).1⟩

end

structure Plans (input scanned schema partialSchema : Schema) (groupExprs aggregates partials : List (Expr F))
    (specs : List (AggregateSpec F)) (types : List DataType) : Prop where
  declares : input.Declares scanned
  planned : aggregateSchema input groupExprs aggregates = .ok schema
  named : List.Forall₂ Names aggregates specs
  offered : ∀ spec ∈ specs, spec.2.2 = false ∧ spec.1 ≠ .sumUInt64
  parts : List.Forall₂ Names partials (specs.flatMap AggregateSpec.split)
  partialPlanned : aggregateSchema input groupExprs partials = .ok partialSchema
  partialTypes : partialSchema.types = schema.types.take groupExprs.length ++ types
  declared : List.Forall₂ (fun part dataType => part.declared input = .ok dataType)
    (specs.flatMap AggregateSpec.split) types
  buildable : (∀ dataType ∈ schema.types.drop groupExprs.length, dataType.isBuildable = true) →
    ∀ dataType ∈ types, dataType.isBuildable = true

namespace Plans

variable {input scanned schema partialSchema : Schema} {groupExprs aggregates partials : List (Expr F)}
  {specs : List (AggregateSpec F)} {types : List DataType}
  (plans : Plans input scanned schema partialSchema groupExprs aggregates partials specs types)

include plans

theorem width : schema.fields.length = groupExprs.length + specs.length :=
  planned_width plans.planned plans.named

theorem partialWidth : partialSchema.fields.length =
    groupExprs.length + (specs.flatMap AggregateSpec.split).length :=
  planned_width plans.partialPlanned plans.parts

theorem keyWidth : (schema.types.take groupExprs.length).length = groupExprs.length :=
  planned_keyWidth plans.planned

theorem partialKeys : partialSchema.types.take groupExprs.length = schema.types.take groupExprs.length := by
  have width := plans.keyWidth
  rw [plans.partialTypes, List.take_append_of_le_length (by omega), List.take_of_length_le (by omega)]

theorem partialStates : partialSchema.types.drop groupExprs.length = types := by
  rw [plans.partialTypes, List.drop_left' plans.keyWidth]

theorem nonempty (some : schema.fields ≠ []) : partialSchema.fields ≠ [] := by
  have parts : specs ≠ [] → specs.flatMap AggregateSpec.split ≠ [] := by
    intro present
    obtain ⟨spec, member⟩ := List.exists_mem_of_ne_nil specs present
    obtain ⟨part, inside⟩ := exists_mem_split spec
    exact List.ne_nil_of_mem (List.mem_flatMap.mpr ⟨spec, member, inside⟩)
  have width := plans.width
  have partialWidth := plans.partialWidth
  rw [← List.length_pos_iff] at some parts ⊢
  rw [← List.length_pos_iff] at parts
  omega

variable {found : List (EncodedKey F × List (ScalarValue F))}

section

variable {batches : List (RecordBatch F)} (uniform : ∀ batch ∈ batches, batch.schema = scanned)
  {output : RecordBatch F}

include uniform

theorem hashAggregate_whole :
    hashAggregate batches groupExprs aggregates schema = .ok output ↔
      (batches ≠ [] → Readable groupExprs (specs.map (·.2.1)) (schema.types.take groupExprs.length) scanned
        (rowsOf batches)) ∧
      ∃ found, Grouping.results (aggregateRows scanned specs) (initialKeys groupExprs.length)
          (keyed groupExprs scanned (rowsOf batches)) = .ok found ∧
        outputBatch groupExprs.length specs.length schema found = .ok output := by
  have known : aggregates.mapM aggregateSpec = .ok specs := mapM_aggregateSpec.mpr plans.named
  rw [hashAggregate_ok uniform, known]
  constructor
  · rintro ⟨_, found, ⟨⟩, readable, computed, built⟩
    exact ⟨readable, found, computed, built⟩
  · rintro ⟨readable, found, computed, built⟩
    exact ⟨specs, found, rfl, readable, computed, built⟩

theorem hashAggregate_partial :
    hashAggregate batches groupExprs partials partialSchema = .ok output ↔
      (batches ≠ [] → Readable groupExprs (specs.map (·.2.1)) (schema.types.take groupExprs.length) scanned
        (rowsOf batches)) ∧
      ∃ found, Grouping.results (aggregateRows scanned (specs.flatMap AggregateSpec.split))
          (initialKeys groupExprs.length) (keyed groupExprs scanned (rowsOf batches)) = .ok found ∧
        (∀ dataType ∈ types, dataType.isBuildable = true) ∧ partialSchema.fields ≠ [] ∧
        output.schema = partialSchema ∧
        output.rows = (sortedGroups found).map fun entry => entry.1 ++ stateSlots types entry.2 := by
  have known : partials.mapM aggregateSpec = .ok (specs.flatMap AggregateSpec.split) :=
    mapM_aggregateSpec.mpr plans.parts
  rw [hashAggregate_ok uniform, known]
  have built {found : List (EncodedKey F × List (ScalarValue F))}
      (readable : batches ≠ [] → Readable groupExprs (specs.map (·.2.1)) (schema.types.take groupExprs.length)
        scanned (rowsOf batches))
      (computed : Grouping.results (aggregateRows scanned (specs.flatMap AggregateSpec.split))
        (initialKeys groupExprs.length) (keyed groupExprs scanned (rowsOf batches)) = .ok found) :=
    @outputBatch_ok F _ groupExprs.length _ partialSchema found output
      (plans.partialKeys.symm ▸ planned_typed uniform plans.planned readable computed) plans.partialWidth
  simp only [plans.partialStates] at built
  rw [plans.partialKeys]
  constructor
  · rintro ⟨_, found, ⟨⟩, split, computed, made⟩
    have readable (some : batches ≠ []) := readable_split.mpr (split some)
    exact ⟨readable, found, computed, (built readable computed).mp made⟩
  · rintro ⟨readable, found, computed, made⟩
    exact ⟨_, found, rfl, fun some => readable_split.mp (readable some), computed,
      (built readable computed).mpr made⟩

theorem exists_partial
    (readable : batches ≠ [] → Readable groupExprs (specs.map (·.2.1)) (schema.types.take groupExprs.length) scanned
      (rowsOf batches))
    (computed : Grouping.results (aggregateRows scanned (specs.flatMap AggregateSpec.split))
      (initialKeys groupExprs.length) (keyed groupExprs scanned (rowsOf batches)) = .ok found)
    (buildable : ∀ dataType ∈ types, dataType.isBuildable = true) (some : partialSchema.fields ≠ []) :
    ∃ output, hashAggregate batches groupExprs partials partialSchema = .ok output := by
  have typed := planned_typed uniform plans.planned readable computed
  rw [← plans.partialKeys] at typed
  obtain ⟨output, built⟩ := exists_outputBatch typed plans.partialWidth
    (aggregateSchema_nullable plans.partialPlanned) (plans.partialStates ▸ buildable) some
  have made := (outputBatch_ok typed plans.partialWidth).mp built
  rw [plans.partialStates] at made
  exact ⟨output, (plans.hashAggregate_partial uniform).mpr ⟨readable, found, computed, made⟩⟩

theorem partial_split (aggregated : hashAggregate batches groupExprs partials partialSchema = .ok output) :
    ∃ part, Grouping.results (fun rows => stateSlots types <$>
          aggregateRows scanned (specs.flatMap AggregateSpec.split) rows)
        (initialKeys groupExprs.length) (keyed groupExprs scanned (rowsOf batches)) = .ok part ∧
      (output.rows.map (splitRow groupExprs.length)).Perm part := by
  obtain ⟨readable, found, computed, _, _, _, rows⟩ := (plans.hashAggregate_partial uniform).mp aggregated
  have typed := planned_typed uniform plans.planned readable computed
  have sorted : (sortedGroups found).Perm found := List.perm_insertionSort _ found
  refine ⟨_, Grouping.results_map.mpr ⟨found, computed, rfl⟩, ?_⟩
  have split : output.rows.map (splitRow groupExprs.length) =
      (sortedGroups found).map fun entry => (entry.1, stateSlots types entry.2) := by
    rw [rows, List.map_map]
    refine List.map_congr_left fun entry member => ?_
    have size : entry.1.length = groupExprs.length :=
      (typed entry (sorted.mem_iff.mp member)).1.length_eq.symm.trans plans.keyWidth
    rw [Function.comp_apply, splitRow, List.take_left' size, List.drop_left' size]
  rw [split]
  exact sorted.map _

end

section

variable {partitions : List (List (RecordBatch F))}
  (uniform : ∀ batch ∈ partitions.flatten, batch.schema = scanned) {outputs arrived : List (RecordBatch F)}

include uniform

theorem partials_split
    (aggregated : partitions.mapM (hashAggregate · groupExprs partials partialSchema) = .ok outputs) :
    ∃ parts, (partitions.map fun partition => keyed groupExprs scanned (rowsOf partition)).mapM
        (Grouping.results (fun rows => stateSlots types <$>
          aggregateRows scanned (specs.flatMap AggregateSpec.split) rows) (initialKeys groupExprs.length)) = .ok parts ∧
      ((rowsOf outputs).map (splitRow groupExprs.length)).Perm parts.flatten := by
  have each : List.Forall₂ (fun partition output => ∃ part, Grouping.results (fun rows => stateSlots types <$>
          aggregateRows scanned (specs.flatMap AggregateSpec.split) rows) (initialKeys groupExprs.length)
          (keyed groupExprs scanned (rowsOf partition)) = .ok part ∧
        (output.rows.map (splitRow groupExprs.length)).Perm part) partitions outputs :=
    forall₂_imp_mem (fun partition output member found => plans.partial_split
      (fun batch inside => uniform batch (List.mem_flatten.mpr ⟨partition, member, inside⟩)) found)
      (mapM_ok.mp aggregated)
  obtain ⟨parts, computed, perms⟩ := forall₂_common each
  refine ⟨parts, mapM_ok.mpr (List.forall₂_map_left_iff.mpr computed), ?_⟩
  have rows : (rowsOf outputs).map (splitRow groupExprs.length) =
      (outputs.map fun output => output.rows.map (splitRow groupExprs.length)).flatten := by
    rw [rowsOf, List.map_flatMap]
    rfl
  rw [rows]
  exact List.Perm.flatten_congr (List.forall₂_map_left_iff.mpr perms)

omit uniform in
theorem mergePartials_plans (partialUniform : ∀ batch ∈ arrived, batch.schema = partialSchema)
    {output : RecordBatch F} :
    mergePartials arrived groupExprs.length aggregates schema = .ok output ↔
      ∃ merged, Grouping.results (mergeRows types (specs.map (·.1))) (initialKeys groupExprs.length)
          ((rowsOf arrived).map (splitRow groupExprs.length)) = .ok merged ∧
        outputBatch groupExprs.length specs.length schema merged = .ok output := by
  have known : aggregates.mapM aggregateFunction = .ok (specs.map (·.1)) :=
    mapM_aggregateFunction.mpr ⟨specs, plans.named, rfl⟩
  have fits : arrived ≠ [] → groupExprs.length ≤ partialSchema.fields.length ∧
      partialSchema.types.take groupExprs.length = schema.types.take groupExprs.length := by
    have := plans.partialWidth
    exact fun _ => ⟨by omega, plans.partialKeys⟩
  rw [mergePartials_ok partialUniform, known, plans.partialStates]
  constructor
  · rintro ⟨_, merged, ⟨⟩, _, computed, built⟩
    exact ⟨merged, computed, by rwa [List.length_map] at built⟩
  · rintro ⟨merged, computed, built⟩
    exact ⟨_, merged, rfl, fits, computed, by rwa [List.length_map]⟩

omit uniform in
theorem schema_of_partials (uniform : ∀ batch ∈ partitions.flatten, batch.schema = scanned)
    (aggregated : partitions.mapM (hashAggregate · groupExprs partials partialSchema) = .ok outputs) :
    ∀ batch ∈ outputs, batch.schema = partialSchema := by
  intro batch member
  obtain ⟨partition, inside, found⟩ := forall₂_mem (mapM_ok.mp aggregated) member
  obtain ⟨_, _, _, _, _, same, _⟩ := (plans.hashAggregate_partial fun batch here =>
    uniform batch (List.mem_flatten.mpr ⟨partition, inside, here⟩)).mp found
  exact same

omit plans uniform in
theorem readable_partitions :
    (partitions.flatten ≠ [] → Readable groupExprs (specs.map (·.2.1)) (schema.types.take groupExprs.length)
        scanned (rowsOf partitions.flatten)) ↔
      ∀ partition ∈ partitions, partition ≠ [] → Readable groupExprs (specs.map (·.2.1))
        (schema.types.take groupExprs.length) scanned (rowsOf partition) := by
  simp only [← readable_batches, List.mem_flatten]
  grind

variable [ExactFloats F]

omit plans uniform [ExactFloats F] in
theorem keyed_flatten : keyed groupExprs scanned (rowsOf partitions.flatten) =
    (partitions.map fun partition => keyed groupExprs scanned (rowsOf partition)).flatten := by
  induction partitions with
  | nil => rfl
  | cons partition rest ih =>
    rw [List.flatten_cons, rowsOf_append, List.map_cons, List.flatten_cons, ← ih, keyed, List.map_append]
    rfl

omit plans [ExactFloats F] in
theorem argued_pieces (readable : partitions.flatten ≠ [] → Readable groupExprs (specs.map (·.2.1))
      (schema.types.take groupExprs.length) scanned (rowsOf partitions.flatten)) :
    ∀ row ∈ (partitions.map fun partition => keyed groupExprs scanned (rowsOf partition)).flatten,
      Argued specs scanned row.2 := by
  rw [← keyed_flatten]
  intro entry member
  obtain ⟨row, inside, rfl⟩ := List.mem_map.mp member
  exact argued_rows uniform readable row inside

theorem merged_whole (few : (rowsOf partitions.flatten).length < 2 ^ 64)
    (readable : partitions.flatten ≠ [] → Readable groupExprs (specs.map (·.2.1))
      (schema.types.take groupExprs.length) scanned (rowsOf partitions.flatten))
    (aggregated : partitions.mapM (hashAggregate · groupExprs partials partialSchema) = .ok outputs)
    (same : arrived.Perm outputs) :
    ∃ found merged, Grouping.results (aggregateRows scanned specs) (initialKeys groupExprs.length)
        (keyed groupExprs scanned (rowsOf partitions.flatten)) = .ok found ∧
      Grouping.results (mergeRows types (specs.map (·.1))) (initialKeys groupExprs.length)
        ((rowsOf arrived).map (splitRow groupExprs.length)) = .ok merged ∧
      outputBatch groupExprs.length specs.length schema found =
        outputBatch groupExprs.length specs.length schema merged := by
  obtain ⟨parts, computed, perm⟩ := plans.partials_split uniform aggregated
  have handed : ((rowsOf arrived).map (splitRow groupExprs.length)).Perm parts.flatten :=
    ((same.flatMap_right _).map _).trans perm
  have small : (partitions.map fun partition => keyed groupExprs scanned (rowsOf partition)).flatten.length < 2 ^ 64 := by
    rwa [← keyed_flatten, keyed, List.length_map]
  obtain ⟨found, merged, wholly, together, agree⟩ := Grouping.results_merge
    (specs_split plans.declares plans.offered plans.declared) (nodup_initialKeys _) (argued_pieces uniform readable)
    small computed handed
  rw [← keyed_flatten] at wholly
  have typed := planned_typed uniform plans.planned readable wholly
  exact ⟨found, merged, wholly, together, outputBatch_perm (fun entry member => (typed entry member).1)
    (Grouping.nodup_results (nodup_initialKeys _) wholly) agree.symm⟩

theorem exists_partials (readable : partitions.flatten ≠ [] → Readable groupExprs (specs.map (·.2.1))
      (schema.types.take groupExprs.length) scanned (rowsOf partitions.flatten))
    (computed : Grouping.results (aggregateRows scanned specs) (initialKeys groupExprs.length)
      (keyed groupExprs scanned (rowsOf partitions.flatten)) = .ok found)
    (buildable : ∀ dataType ∈ types, dataType.isBuildable = true) (some : partialSchema.fields ≠ []) :
    ∃ outputs, partitions.mapM (hashAggregate · groupExprs partials partialSchema) = .ok outputs := by
  rw [keyed_flatten] at computed
  obtain ⟨parts, pieces⟩ := Grouping.results_parts
    (specs_split plans.declares plans.offered plans.declared) (argued_pieces uniform readable) computed
  have each : ∀ partition ∈ partitions, ∃ output,
      hashAggregate partition groupExprs partials partialSchema = .ok output := by
    intro partition member
    obtain ⟨part, _, here⟩ := forall₂_item (mapM_ok.mp pieces) (List.mem_map_of_mem member)
    obtain ⟨groups, aggregated, _⟩ := Grouping.results_map.mp here
    exact plans.exists_partial
      (fun batch inside => uniform batch (List.mem_flatten.mpr ⟨partition, member, inside⟩))
      (readable_partitions.mp readable partition member) aggregated buildable some
  obtain ⟨outputs, pointwise⟩ := forall₂_exists each
  exact ⟨outputs, mapM_ok.mpr pointwise⟩

theorem phases_agree (few : (rowsOf partitions.flatten).length < 2 ^ 64)
    {arrange : List (RecordBatch F) → List (RecordBatch F)} (arranged : ∀ outputs, (arrange outputs).Perm outputs)
    {output : RecordBatch F} :
    hashAggregate partitions.flatten groupExprs aggregates schema = .ok output ↔
      ∃ outputs, partitions.mapM (hashAggregate · groupExprs partials partialSchema) = .ok outputs ∧
        mergePartials (arrange outputs) groupExprs.length aggregates schema = .ok output := by
  rw [plans.hashAggregate_whole uniform]
  have merges {outputs : List (RecordBatch F)}
      (aggregated : partitions.mapM (hashAggregate · groupExprs partials partialSchema) = .ok outputs) :=
    @mergePartials_plans F _ _ _ _ _ _ _ _ _ _ plans (arrange outputs) (fun batch member =>
      plans.schema_of_partials uniform aggregated batch ((arranged outputs).mem_iff.mp member)) output
  constructor
  · rintro ⟨readable, found, computed, built⟩
    have made := (outputBatch_ok (planned_typed uniform plans.planned readable computed) plans.width).mp built
    obtain ⟨outputs, aggregated⟩ := plans.exists_partials uniform readable computed
      (plans.buildable made.1) (plans.nonempty made.2.1)
    obtain ⟨again, merged, wholly, together, same⟩ :=
      plans.merged_whole uniform few readable aggregated (arranged outputs)
    obtain rfl := Except.ok.inj (computed.symm.trans wholly)
    exact ⟨outputs, aggregated, (merges aggregated).mpr ⟨merged, together, same ▸ built⟩⟩
  · rintro ⟨outputs, aggregated, done⟩
    have readable := readable_partitions.mpr fun partition member => by
      obtain ⟨piece, _, found⟩ := forall₂_item (mapM_ok.mp aggregated) member
      exact ((plans.hashAggregate_partial fun batch here =>
        uniform batch (List.mem_flatten.mpr ⟨partition, member, here⟩)).mp found).1
    obtain ⟨merged, together, built⟩ := (merges aggregated).mp done
    obtain ⟨found, again, wholly, computed, same⟩ :=
      plans.merged_whole uniform few readable aggregated (arranged outputs)
    obtain rfl := Except.ok.inj (together.symm.trans computed)
    exact ⟨readable, found, wholly, same.trans built⟩

end

end Plans

-- A non-distinct `COUNT`, `SUM`, `AVG`, `MIN` or `MAX`.
def Expr.isPlainAggregate (expr : Expr F) : Bool :=
  match expr.unalias with
  | .aggregate function _ distinct => function ≠ .sumUInt64 && !distinct
  | _ => false

omit [ArrowKernels F] in
theorem isPlainAggregate_iff {expr : Expr F} : expr.isPlainAggregate = true ↔
    ∃ spec : AggregateSpec F, Names expr spec ∧ spec.2.2 = false ∧ spec.1 ≠ .sumUInt64 := by
  unfold Expr.isPlainAggregate Names
  split
  next function argument distinct found => simp [found, and_comm]
  next other =>
    simp only [Bool.false_eq_true, false_iff, not_exists]
    intro spec ⟨found, _⟩
    exact other _ _ _ found

theorem two_phase_aggregation [ExactFloats F] {input scanned schema : Schema}
    {partitions : List (List (RecordBatch F))} {groupExprs aggregateExprs : List (Expr F)}
    (uniform : ∀ batch ∈ partitions.flatten, batch.schema = scanned) (declares : input.Declares scanned)
    (planned : aggregateSchema input groupExprs aggregateExprs = .ok schema)
    (offered : ∀ expr ∈ aggregateExprs, expr.isPlainAggregate = true)
    (few : (rowsOf partitions.flatten).length < 2 ^ 63)
    {arrange : List (RecordBatch F) → List (RecordBatch F)} (arranged : ∀ partials, (arrange partials).Perm partials)
    (output : RecordBatch F) :
    hashAggregate partitions.flatten groupExprs aggregateExprs schema = .ok output ↔
      twoPhaseAggregate arrange partitions input groupExprs aggregateExprs schema = .ok output := by
  obtain ⟨_, known⟩ := forall₂_exists fun expr member => isPlainAggregate_iff.mp (offered expr member)
  obtain ⟨partials, split⟩ := exists_partialAggregateExprs (known.imp fun _ _ both => both.1)
  obtain ⟨specs, named, parts⟩ := partialAggregateExprs_ok split
  obtain ⟨partialSchema, types, partialPlanned, partialTypes, declared, buildable⟩ :=
    exists_partialSchema planned named parts
  have plans : Plans input scanned schema partialSchema groupExprs aggregateExprs partials specs types :=
    { declares, planned, named, parts, partialPlanned, partialTypes, declared, buildable
      offered := fun spec member => by
        obtain ⟨expr, inside, here⟩ := forall₂_mem named member
        obtain ⟨other, there, plain⟩ := isPlainAggregate_iff.mp (offered expr inside)
        obtain ⟨function, _, distinct⟩ := Expr.aggregate.inj (here.symm.trans there)
        exact ⟨distinct.trans plain.1, function ▸ plain.2⟩ }
  have small : (rowsOf partitions.flatten).length < 2 ^ 64 := by omega
  simp only [plans.phases_agree uniform small arranged, twoPhaseAggregate, bind_ok, lift_ok, split,
    Except.ok.injEq, exists_eq_left', partialPlanned]

namespace TwoPhases

-- Groups in one and in both of two partitions, with nulls.

def schema : Schema := { fields := [⟨"k", .uint64, true, .empty⟩, ⟨"v", .float64, true, .empty⟩] }

def first : RecordBatch ℚ :=
  { schema := schema
    rows := [[.uint64 1, .float64 2], [.null, .float64 5], [.uint64 2, .null]]
    typed := by decide }

def second : RecordBatch ℚ :=
  { schema := schema, rows := [[.uint64 1, .float64 4]], typed := by decide }

def groups : List (Expr ℚ) := [.column "k"]

def aggregates : List (Expr ℚ) :=
  [.aggregate .count .wildcard false, .aggregate .avg (.column "v") false, .aggregate .max (.column "v") false]

def output : Schema :=
  { fields := [⟨"k", .uint64, true, .empty⟩, ⟨"COUNT(*)", .uint64, true, .empty⟩,
      ⟨"AVG(#v)", .float64, true, .empty⟩, ⟨"MAX(#v)", .float64, true, .empty⟩] }

end TwoPhases

open TwoPhases in
theorem two_phase_aggregation_nulls :
    ∃ batch, twoPhaseAggregate List.reverse [[first], [], [second]] schema groups aggregates output = .ok batch ∧
      batch.rows = [[.null, .uint64 1, .float64 5, .float64 5], [.uint64 1, .uint64 2, .float64 3, .float64 4],
        [.uint64 2, .uint64 1, .null, .null]] := by
  have whole : (hashAggregate [first, second] groups aggregates output).toOption.map (·.rows) =
      some [[.null, .uint64 1, .float64 5, .float64 5], [.uint64 1, .uint64 2, .float64 3, .float64 4],
        [.uint64 2, .uint64 1, .null, .null]] := by decide +kernel
  obtain ⟨batch, computed, rows⟩ := Option.map_eq_some_iff.mp whole
  exact ⟨batch, (two_phase_aggregation (by decide) (Schema.declares_self schema) rfl (by decide) (by decide)
    List.reverse_perm batch).mp (Operator.toOption_eq_some.mp computed), rows⟩

end SparkX
