import SparkX.Cluster.PlanCodec.Accepted

set_option autoImplicit false

namespace SparkX

open Rowwise

variable {F : Type}

theorem decodeExpr_reads {name : String} {first second : Expr F} {wire : WireExpr F}
    (encodes : encodeExpr first = .ok wire) (read : decodeExpr name wire = .ok second) : first = second := by
  induction first generalizing name second wire with
  | column column =>
    cases encodes
    cases (check_ok.mp read).2
    rfl
  | literal value =>
    cases encodes
    obtain ⟨scalar, scalarRead, rfl⟩ := map_eq_ok.mp read
    cases scalarRead.symm.trans (decodeScalar_ok.mpr rfl)
    rfl
  | binary left op right leftIh rightIh =>
    simp only [encodeExpr, bind_ok] at encodes
    obtain ⟨_, leftEncodes, _, rightEncodes, same⟩ := encodes
    cases same
    simp only [decodeExpr, bind_ok, decodeOperator_ok] at read
    obtain ⟨_, leftRead, _, ops, _, rightRead, same⟩ := read
    cases same
    cases (decodeOperator_ok.mpr ops).symm.trans (decodeOperator_ok.mpr rfl)
    rw [leftIh leftEncodes leftRead, rightIh rightEncodes rightRead]
  | isNull expr negated ih =>
    obtain ⟨_, inner, same⟩ := bind_ok.mp encodes
    cases same
    obtain ⟨_, innerRead, same⟩ := bind_ok.mp read
    cases same
    rw [ih inner innerRead]
  | cast expr dataType ih =>
    simp only [encodeExpr, bind_ok] at encodes
    obtain ⟨_, encodes, _, typed, same⟩ := encodes
    cases same
    simp only [decodeExpr, bind_ok] at read
    obtain ⟨_, read, _, typedAgain, same⟩ := read
    cases same
    cases typedAgain.symm.trans (decodeDataType_ok.mpr typed)
    rw [ih encodes read]
  | aliased expr column ih =>
    obtain ⟨_, inner, same⟩ := bind_ok.mp encodes
    cases same
    obtain ⟨_, innerRead, same⟩ := bind_ok.mp (check_ok.mp read).2
    cases same
    rw [ih inner innerRead]
  | aggregate function expr distinct ih =>
    obtain ⟨_, inner, same⟩ := bind_ok.mp encodes
    cases same
    simp only [decodeExpr, bind_ok] at read
    obtain ⟨_, functions, _, read, same⟩ := read
    cases same
    cases functions.symm.trans (decodeAggregateFunction_ok.mpr rfl)
    rw [ih inner read]
  | wildcard =>
    cases encodes
    cases read
    rfl

theorem decodeExprs_reads {exprs parts : List (Expr F)} {wires : List (WireExpr F)}
    (encodes : exprs.mapM encodeExpr = .ok wires) (read : decodeExprs wires = .ok parts) : exprs = parts :=
  mapM_reads (fun _ _ _ => decodeExpr_reads) encodes read

theorem decodeSortExprs_reads {exprs parts : List (SortExpr F)} {wires : List (WireSortExpr F)} {schema : Schema}
    (encodes : exprs.mapM encodeSortExpr = .ok wires) (read : decodeSortExprs wires schema = .ok parts) :
    exprs = parts := by
  obtain ⟨_, read, rest⟩ := bind_ok.mp read
  cases (check_ok.mp rest).2
  refine mapM_reads (fun sort wire part written found => ?_) encodes read
  obtain ⟨_, inner, same⟩ := bind_ok.mp written
  cases same
  simp only [decodeSortExpr, bind_ok, lift_ok] at found
  obtain ⟨_, found, _, _, same⟩ := found
  cases same
  obtain rfl := decodeExpr_reads inner found
  rfl

theorem WireSchema.Similar.refl (schema : WireSchema) : schema.Similar schema :=
  ⟨List.forall₂_same.mpr fun _ _ => ⟨rfl, rfl, rfl, .refl _⟩, .refl _⟩

theorem decodeRequiredSchema_reads {schema declared : Schema} {wire : WireSchema} {operator : String}
    (encodes : encodeSchema schema = .ok wire) (read : decodeRequiredSchema (some wire) operator = .ok declared) :
    schema = declared :=
  Except.ok.inj ((decodeSchema_ok.mpr ⟨wire, encodes, .refl wire⟩).symm.trans read)

namespace PhysicalPlan

def rebind (catalog : Catalog F) : PhysicalPlan F → Except SparkXError (PhysicalPlan F)
  | .scan id tableName _ indices filters schema => do
    return .scan id tableName (← catalog.table tableName) indices filters schema
  | .projection id input exprs schema => do
    return .projection id (← input.rebind catalog) exprs schema
  | .filter id input predicate schema => do
    return .filter id (← input.rebind catalog) predicate schema
  | .hashAggregate id input groupExprs aggregateExprs schema => do
    return .hashAggregate id (← input.rebind catalog) groupExprs aggregateExprs schema
  | .sort id input exprs schema => do return .sort id (← input.rebind catalog) exprs schema
  | .topK id input exprs count schema => do
    return .topK id (← input.rebind catalog) exprs count schema
  | .limit id input count schema => do return .limit id (← input.rebind catalog) count schema
  | .hashJoin id left right joinType leftOn rightOn schema => do
    return .hashJoin id (← left.rebind catalog) (← right.rebind catalog) joinType leftOn rightOn schema

end PhysicalPlan

theorem WirePlan.Similar.refl (wire : WirePlan F) : wire.Similar wire := by
  have schemas (schema : Option WireSchema) : Option.Rel WireSchema.Similar schema schema := by
    cases schema with
    | none => exact .none
    | some schema => exact .some (.refl schema)
  induction wire with
  | absent => exact .absent
  | unset => exact .unset
  | scan _ _ _ _ _ schema => exact .scan (schemas schema)
  | projection _ _ _ schema ih => exact .projection ih (schemas schema)
  | filter _ _ _ schema ih => exact .filter ih (schemas schema)
  | hashAggregate _ _ _ _ schema ih => exact .hashAggregate ih (schemas schema)
  | sort _ _ _ schema ih => exact .sort ih (schemas schema)
  | topK _ _ _ _ schema ih => exact .topK ih (schemas schema)
  | limit _ _ _ schema ih => exact .limit ih (schemas schema)
  | hashJoin _ _ _ _ _ _ schema leftIh rightIh => exact .hashJoin leftIh rightIh (schemas schema)

section

variable [FloatOps F] {catalog : Catalog F}

theorem decodePlan_rebind {depth : Nat} {name : String} {first second : PhysicalPlan F} {wire : WirePlan F}
    (encodes : encodePlan depth first = .ok wire) (read : decodePlan catalog depth name wire = .ok second) :
    first.rebind catalog = .ok second := by
  induction first generalizing depth name second wire with
  | scan id tableName provider projection filters schema =>
    simp only [encodePlan, bind_ok, checkedIndices_ok] at encodes
    obtain ⟨_, _, _, listed, _, exprs, _, declared, same⟩ := encodes
    cases same
    simp only [decodePlan, bind_ok, lift_ok, resolveTable_ok, decodeProjection_ok, checkedIndices_ok] at read
    obtain ⟨_, _, _, _, _, found, indices, ⟨flags, listedAgain⟩, _, schemas, _, _, _, filtersRead, same⟩ := read
    cases same
    have projections : projection = indices := by cases projection <;> cases indices <;> simp_all
    rw [PhysicalPlan.rebind, found, projections, decodeExprs_reads exprs filtersRead,
      decodeRequiredSchema_reads declared schemas]
    rfl
  | projection id input exprs schema ih =>
    simp only [encodePlan, bind_ok] at encodes
    obtain ⟨_, _, _, childEncodes, _, written, _, declared, same⟩ := encodes
    cases same
    simp only [decodePlan, bind_ok, lift_ok] at read
    obtain ⟨_, _, _, childRead, _, exprsRead, _, schemas, _, _, _, _, same⟩ := read
    cases same
    rw [PhysicalPlan.rebind, ih childEncodes childRead, decodeExprs_reads written exprsRead,
      decodeRequiredSchema_reads declared schemas]
    rfl
  | filter id input predicate schema ih =>
    simp only [encodePlan, bind_ok] at encodes
    obtain ⟨_, _, _, childEncodes, _, written, _, declared, same⟩ := encodes
    cases same
    simp only [decodePlan, bind_ok, lift_ok] at read
    obtain ⟨_, _, _, childRead, _, exprRead, _, _, _, _, _, schemas, _, _, same⟩ := read
    cases same
    rw [PhysicalPlan.rebind, ih childEncodes childRead, decodeExpr_reads written exprRead,
      decodeRequiredSchema_reads declared schemas]
    rfl
  | hashAggregate id input groupExprs aggregateExprs schema ih =>
    simp only [encodePlan, bind_ok] at encodes
    obtain ⟨_, _, _, childEncodes, _, groups, _, aggregates, _, declared, same⟩ := encodes
    cases same
    simp only [decodePlan, bind_ok, lift_ok] at read
    obtain ⟨_, _, _, childRead, _, groupsRead, _, aggregatesRead, _, schemas, _, _, _, _, same⟩ := read
    cases same
    rw [PhysicalPlan.rebind, ih childEncodes childRead, decodeExprs_reads groups groupsRead,
      decodeExprs_reads aggregates aggregatesRead, decodeRequiredSchema_reads declared schemas]
    rfl
  | sort id input exprs schema ih =>
    simp only [encodePlan, bind_ok] at encodes
    obtain ⟨_, _, _, childEncodes, _, written, _, declared, same⟩ := encodes
    cases same
    simp only [decodePlan, bind_ok, lift_ok] at read
    obtain ⟨_, _, _, childRead, _, exprsRead, _, schemas, _, _, same⟩ := read
    cases same
    rw [PhysicalPlan.rebind, ih childEncodes childRead, decodeSortExprs_reads written exprsRead,
      decodeRequiredSchema_reads declared schemas]
    rfl
  | topK id input exprs limit schema ih =>
    simp only [encodePlan, bind_ok, checkedU64_ok] at encodes
    obtain ⟨_, _, _, childEncodes, _, written, _, rfl, _, declared, same⟩ := encodes
    cases same
    simp only [decodePlan, bind_ok, lift_ok] at read
    obtain ⟨_, _, _, childRead, _, exprsRead, _, schemas, _, _, same⟩ := read
    cases same
    rw [PhysicalPlan.rebind, ih childEncodes childRead, decodeSortExprs_reads written exprsRead,
      decodeRequiredSchema_reads declared schemas]
    rfl
  | limit id input limit schema ih =>
    simp only [encodePlan, bind_ok, checkedU64_ok] at encodes
    obtain ⟨_, _, _, childEncodes, _, rfl, _, declared, same⟩ := encodes
    cases same
    simp only [decodePlan, bind_ok, lift_ok] at read
    obtain ⟨_, _, _, childRead, _, schemas, _, _, same⟩ := read
    cases same
    rw [PhysicalPlan.rebind, ih childEncodes childRead, decodeRequiredSchema_reads declared schemas]
    rfl
  | hashJoin id left right joinType leftOn rightOn schema leftIh rightIh =>
    simp only [encodePlan, bind_ok] at encodes
    obtain ⟨_, _, _, leftEncodes, _, rightEncodes, _, leftKeys, _, rightKeys, _, declared, same⟩ := encodes
    cases same
    simp only [decodePlan, bind_ok, lift_ok] at read
    obtain ⟨_, _, _, leftRead, _, rightRead, _, kinds, _, leftKeysRead, _, rightKeysRead, _, _, _, schemas, _, _,
      same⟩ := read
    cases same
    cases kinds.symm.trans (decodeJoinType_ok.mpr rfl)
    rw [PhysicalPlan.rebind, leftIh leftEncodes leftRead, rightIh rightEncodes rightRead,
      decodeExprs_reads leftKeys leftKeysRead, decodeExprs_reads rightKeys rightKeysRead,
      decodeRequiredSchema_reads declared schemas]
    rfl

theorem plan_codec_faithful (catalog : Catalog F) (name : String) :
    (∀ plan wire decoded, encodePlan 0 plan = .ok wire →
      decodePlan catalog 0 name wire = .ok decoded → plan.rebind catalog = .ok decoded) ∧
    ∀ wire decoded, decodePlan catalog 0 name wire = .ok decoded →
      ∃ again, encodePlan 0 decoded = .ok again ∧ again.Similar wire ∧
        decodePlan catalog 0 name again = .ok decoded := by
  refine ⟨?_, ?_⟩
  · intro plan wire decoded encodes read
    exact decodePlan_rebind encodes read
  · intro wire decoded read
    obtain ⟨accepted, encoded, again, similar⟩ := decodePlan_ok.mp read
    exact ⟨encoded, again, similar, decodePlan_ok.mpr ⟨accepted, encoded, again, .refl encoded⟩⟩

end

def eventSchema (qualifier : String) : Schema :=
  { fields := [
      { name := qualifier ++ "time", dataType := .int64, nullable := true,
        metadata := { entries := [("unit", "ms"), ("zone", "utc")], sorted := by decide } },
      { name := qualifier ++ "kind", dataType := .utf8, nullable := false }] }

def events : TableProvider ℚ :=
  MemoryTable.provider { schema := eventSchema "", partitions := [[]], uniform := by simp }

def eventCatalog : Catalog ℚ :=
  { tables := fun name => if name = "events" then some events else none }

def recentEvents : PhysicalPlan ℚ :=
  let scan := .scan 2 "Events" events none [] (eventSchema "e.")
  let filter := .filter 1 scan (.binary (.column "e.time") .gt (.literal (.float64 (3 / 2)))) (eventSchema "e.")
  .topK 0 filter [⟨.aliased (.column "kind") "k", true, false⟩] 10 (eventSchema "e.")

theorem plan_codec_faithful_recent_events : ∃ wire, encodePlan 0 recentEvents = .ok wire ∧
    decodePlan eventCatalog 0 "root" wire = .ok recentEvents ∧
      recentEvents.rebind eventCatalog = .ok recentEvents ∧
        ∃ again, encodePlan 0 recentEvents = .ok again ∧ again.Similar wire ∧
          decodePlan eventCatalog 0 "root" again = .ok recentEvents := by
  refine ⟨_, rfl, rfl, ?_, ?_⟩
  · exact (plan_codec_faithful eventCatalog "root").1 _ _ _ rfl rfl
  · exact (plan_codec_faithful eventCatalog "root").2 _ _ rfl

end SparkX
