import SparkX.Query.Declared
import SparkX.Runtime.Grouped
import SparkX.Runtime.Summaries

set_option autoImplicit false

namespace SparkX

open Rowwise

variable {F : Type}

def ReadAs (dataType : DataType) (value : ScalarValue F) : Prop :=
  ∃ slot : Value F, slot.hasType dataType = true ∧ valueAt dataType slot = .ok value

def DataType.scalarType (dataType : DataType) : DataType := dataType.normalizedNumericType.getD dataType

theorem readAs_null (dataType : DataType) : ReadAs dataType (.null : ScalarValue F) :=
  ⟨.null, Value.hasType_null dataType, rfl⟩

variable {dataType : DataType} {value : ScalarValue F}

theorem ReadAs.fits (read : ReadAs dataType value) : value.Fits dataType.scalarType := by
  obtain ⟨slot, typed, found⟩ := read
  cases slot with
  | null => exact .inl (Except.ok.inj found).symm
  | other => cases found
  | _ =>
    cases found
    refine .inr ?_
    cases dataType <;> first | rfl | cases typed

theorem ReadAs.stored [FloatOps F] {computed declared : DataType} (read : ReadAs computed value)
    (widens : computed.Widens declared)
    (rounds : declared = .float32 → ∀ number : F, FloatOps.narrow number = number) :
    valueAt declared (slotOf declared value) = .ok value := by
  obtain ⟨slot, typed, found⟩ := read
  cases slot with
  | other => cases found
  | null =>
    cases found
    cases declared <;> rfl
  | _ =>
    cases found
    cases computed <;> cases typed
    -- A narrower type can only keep what was read from it.
    all_goals
      rcases widens with rfl | normalized
      · simp [slotOf, valueAt, Signed.narrow_widen, rounds]
      · cases normalized <;> rfl

variable {expr : Expr F} {row : Row F}

section

variable [ArrowKernels F]

def Argued (specs : List (AggregateSpec F)) (scanned : Schema) (row : Row F) : Prop :=
  scanned.admits row ∧ ∀ spec ∈ specs, spec.2.1 ≠ .wildcard →
    ∃ dataType, spec.2.1.typeIn scanned = some dataType

theorem argumentIn_readAs (proper : expr ≠ .wildcard) {scanned : Schema} (admitted : scanned.admits row)
    (typed : expr.typeIn scanned = some dataType) (read : argumentIn scanned expr row = .ok value) :
    ReadAs dataType value := by
  have argument : argumentIn scanned expr row = valueAt dataType ((expr.valueIn scanned row).getD .null) := by
    unfold argumentIn
    split
    · exact absurd rfl proper
    · rw [typed, Option.getD_some]
  rw [argument] at read
  cases found : expr.valueIn scanned row with
  | none =>
    rw [found] at read
    cases read
    exact readAs_null dataType
  | some slot =>
    rw [found] at read
    exact ⟨slot, Expr.hasType_valueIn admitted typed found, read⟩

def AggregateSpec.declared (input : Schema) (spec : AggregateSpec F) : Except Fault DataType :=
  (Expr.aggregate spec.1 spec.2.1 spec.2.2).dataType input

end

section

variable [ArrowKernels F] {groupExprs : List (Expr F)} {scanned : Schema} {types : List DataType}

theorem keyTyped_keyIn (typed : groupExprs.map (·.typeIn scanned) = types.map some)
    (admitted : scanned.admits row) : KeyTyped types (keyIn groupExprs scanned row) := by
  induction groupExprs generalizing types with
  | nil =>
    obtain rfl := List.map_eq_nil_iff.mp typed.symm
    exact .nil
  | cons expr rest ih =>
    cases types with
    | nil => cases typed
    | cons dataType others =>
      obtain ⟨here, there⟩ := List.cons.inj typed
      refine .cons ?_ (ih there)
      change ((expr.valueIn scanned row).getD .null).hasType dataType = true
      cases found : expr.valueIn scanned row with
      | none => exact Value.hasType_null dataType
      | some value => exact Expr.hasType_valueIn admitted here found

theorem results_typed {ε ο : Type} {compute : List (Row F) → Except ε ο} {rows : List (Row F)}
    {found : List (EncodedKey F × ο)}
    (computed : Grouping.results compute (initialKeys groupExprs.length) (keyed groupExprs scanned rows) = .ok found)
    (size : types.length = groupExprs.length)
    (typed : rows ≠ [] → groupExprs.map (·.typeIn scanned) = types.map some)
    (admitted : ∀ row ∈ rows, scanned.admits row) : ∀ entry ∈ found, KeyTyped types entry.1 := by
  intro entry member
  have known : entry.1 ∈ Grouping.keysOf (initialKeys groupExprs.length) (keyed groupExprs scanned rows) :=
    (Grouping.results_ok.mp computed).1 ▸ List.mem_map_of_mem member
  rcases Grouping.mem_keysOf.mp known with initial | later
  · -- The only key that needs no row is the empty one, where there are no group expressions.
    unfold initialKeys at initial
    split at initial
    next none =>
      rw [none, List.length_eq_zero_iff] at size
      rw [List.mem_singleton.mp initial, size]
      exact .nil
    next => cases initial
  · obtain ⟨_, inside, same⟩ := List.mem_map.mp later
    obtain ⟨row, present, rfl⟩ := List.mem_map.mp inside
    rw [← same]
    exact keyTyped_keyIn (typed (List.ne_nil_of_mem present)) (admitted row present)

end

section

def aggregateSchema [FloatOps F] (input : Schema) (groups aggregates : List (Expr F)) :
    Except Fault Schema := do
  return { fields := ← (groups ++ aggregates).mapM (·.field input) }

variable [ArrowKernels F]

variable {spec : AggregateSpec F}

theorem aggregateSpec_ok :
    aggregateSpec expr = .ok spec ↔ expr.unalias = .aggregate spec.1 spec.2.1 spec.2.2 := by
  unfold aggregateSpec
  split
  next function argument distinct found =>
    rw [found]
    simp [Prod.ext_iff]
  next other =>
    constructor
    · exact nofun
    · intro found
      exact (other _ _ _ found).elim

omit [ArrowKernels F] in
theorem dataType_of_unalias (found : expr.unalias = .aggregate spec.1 spec.2.1 spec.2.2) (input : Schema) :
    expr.dataType input = spec.declared input := by
  cases expr with
  | aliased inner name =>
    obtain rfl : inner = _ := found
    rfl
  | aggregate function argument distinct =>
    obtain ⟨rfl, rfl, rfl⟩ := Expr.aggregate.inj found
    rfl
  | _ => cases found

def Names (expr : Expr F) (part : AggregateSpec F) : Prop :=
  expr.unalias = .aggregate part.1 part.2.1 part.2.2

theorem mapM_aggregateSpec {aggregates : List (Expr F)} {specs : List (AggregateSpec F)} :
    aggregates.mapM aggregateSpec = .ok specs ↔ List.Forall₂ Names aggregates specs := by
  simp only [mapM_ok, aggregateSpec_ok]
  rfl

section

variable {input schema : Schema} {groups aggregates : List (Expr F)} {specs : List (AggregateSpec F)}

theorem aggregateSchema_ok : aggregateSchema input groups aggregates = .ok schema ↔
    List.Forall₂ (fun expr field => expr.field input = .ok field) (groups ++ aggregates) schema.fields ∧
      schema.metadata = .empty := by
  simp only [aggregateSchema, bind_ok, pure_eq_ok, mapM_ok]
  constructor
  · rintro ⟨fields, found, rfl⟩
    exact ⟨found, rfl⟩
  · rintro ⟨found, bare⟩
    exact ⟨schema.fields, found, by rw [← bare]⟩

theorem aggregateSchema_types (planned : aggregateSchema input groups aggregates = .ok schema) :
    List.Forall₂ (fun expr dataType => expr.dataType input = .ok dataType) (groups ++ aggregates) schema.types := by
  refine List.forall₂_map_right_iff.mpr ((aggregateSchema_ok.mp planned).1.imp fun expr field found => ?_)
  obtain ⟨dataType, known, rfl⟩ := Expr.field_ok.mp found
  exact known

theorem aggregateSchema_nullable (planned : aggregateSchema input groups aggregates = .ok schema) :
    ∀ field ∈ schema.fields, field.nullable = true := by
  intro field member
  obtain ⟨expr, _, found⟩ := forall₂_mem (aggregateSchema_ok.mp planned).1 member
  obtain ⟨dataType, _, rfl⟩ := Expr.field_ok.mp found
  rfl

theorem exists_aggregateSchema {types : List DataType}
    (known : List.Forall₂ (fun expr dataType => expr.dataType input = .ok dataType) (groups ++ aggregates) types) :
    ∃ schema, aggregateSchema input groups aggregates = .ok schema ∧ schema.types = types := by
  have each : ∀ expr ∈ groups ++ aggregates, ∃ field, expr.field input = .ok field := by
    intro expr member
    obtain ⟨dataType, _, here⟩ := forall₂_item known member
    exact ⟨_, Expr.field_ok.mpr ⟨dataType, here, rfl⟩⟩
  obtain ⟨fields, found⟩ := forall₂_exists each
  have planned : aggregateSchema input groups aggregates = .ok { fields } :=
    aggregateSchema_ok.mpr ⟨found, rfl⟩
  exact ⟨_, planned, forall₂_unique (fun _ _ _ here there => Except.ok.inj (here.symm.trans there))
    (aggregateSchema_types planned) known⟩

theorem specs_declared (planned : aggregateSchema input groups aggregates = .ok schema)
    (named : List.Forall₂ Names aggregates specs) :
    List.Forall₂ (fun spec dataType => spec.declared input = .ok dataType) specs
      (schema.types.drop groups.length) := by
  have types := List.forall₂_drop groups.length (aggregateSchema_types planned)
  rw [List.drop_left] at types
  refine (forall₂_comp.mpr ⟨aggregates, named.flip, types⟩).imp fun spec dataType found => ?_
  obtain ⟨expr, here, typed⟩ := found
  rw [← dataType_of_unalias here, typed]

section

variable {scanned : Schema} {batches : List (RecordBatch F)}

omit [ArrowKernels F] in
theorem admitted_rows (uniform : ∀ batch ∈ batches, batch.schema = scanned) :
    ∀ row ∈ rowsOf batches, scanned.admits row := by
  intro row member
  obtain ⟨batch, inside, here⟩ := List.mem_flatMap.mp member
  exact uniform batch inside ▸ batch.typed row here

theorem planned_width (planned : aggregateSchema input groups aggregates = .ok schema)
    (named : List.Forall₂ Names aggregates specs) : schema.fields.length = groups.length + specs.length := by
  rw [← (aggregateSchema_ok.mp planned).1.length_eq, List.length_append, named.length_eq]

theorem planned_keyWidth (planned : aggregateSchema input groups aggregates = .ok schema) :
    (schema.types.take groups.length).length = groups.length := by
  rw [List.length_take, ← (aggregateSchema_types planned).length_eq, List.length_append]
  omega

theorem planned_typed (uniform : ∀ batch ∈ batches, batch.schema = scanned)
    (planned : aggregateSchema input groups aggregates = .ok schema)
    (readable : batches ≠ [] → Readable groups (specs.map (·.2.1)) (schema.types.take groups.length) scanned
      (rowsOf batches)) {compared : List (AggregateSpec F)} {found : List (EncodedKey F × List (ScalarValue F))}
    (computed : Grouping.results (aggregateRows scanned compared) (initialKeys groups.length)
      (keyed groups scanned (rowsOf batches)) = .ok found) :
    ∀ entry ∈ found, KeyTyped (schema.types.take groups.length) entry.1 ∧ entry.2.length = compared.length := by
  have keys := results_typed computed (planned_keyWidth planned)
    (fun rows => (readable fun none => rows (by rw [none]; rfl)).keyTypes) (admitted_rows uniform)
  intro entry member
  exact ⟨keys entry member, (mapM_ok.mp ((Grouping.results_ok.mp computed).2 entry member)).length_eq.symm⟩

end

end

end

end SparkX
