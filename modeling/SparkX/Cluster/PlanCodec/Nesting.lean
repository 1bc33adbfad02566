import SparkX.Cluster.PlanCodec.Validation

set_option autoImplicit false

namespace SparkX

variable {F : Type}

def recursionLimit : Nat := 100

def deepest (levels : List Nat) : Nat := levels.foldr max 0

def WireExpr.levels : WireExpr F → Nat
  | .absent => 0
  | .unset | .column _ | .wildcard _ => 1
  | .literal _ => 2
  | .binary left _ right => 2 + max left.levels right.levels
  | .isNull expr _ | .cast expr _ | .aliased expr _ | .aggregate _ expr _ => 2 + expr.levels

def WireSortExpr.levels (sort : WireSortExpr F) : Nat := 1 + sort.expr.levels

def metadataLevels {α : Type} (entries : List α) : Nat := deepest (entries.map fun _ => 1)

def WireField.levels (field : WireField) : Nat := 1 + metadataLevels field.metadata

def WireSchema.levels (schema : WireSchema) : Nat :=
  1 + max (deepest (schema.fields.map WireField.levels)) (metadataLevels schema.metadata)

def schemaLevels (schema : Option WireSchema) : Nat := schema.elim 0 WireSchema.levels

def WirePlan.levels : WirePlan F → Nat
  | .absent => 0
  | .unset => 1
  | .scan _ _ _ _ filters schema => 2 + max (deepest (filters.map WireExpr.levels)) (schemaLevels schema)
  | .projection _ input exprs schema =>
    2 + max input.levels (max (deepest (exprs.map WireExpr.levels)) (schemaLevels schema))
  | .filter _ input predicate schema =>
    2 + max input.levels (max predicate.levels (schemaLevels schema))
  | .hashAggregate _ input groupExprs aggregateExprs schema =>
    2 + max input.levels (max (deepest (groupExprs.map WireExpr.levels))
      (max (deepest (aggregateExprs.map WireExpr.levels)) (schemaLevels schema)))
  | .sort _ input exprs schema | .topK _ input exprs _ schema =>
    2 + max input.levels (max (deepest (exprs.map WireSortExpr.levels)) (schemaLevels schema))
  | .limit _ input _ schema => 2 + max input.levels (schemaLevels schema)
  | .hashJoin _ left right _ leftOn rightOn schema =>
    2 + max left.levels (max right.levels (max (deepest (leftOn.map WireExpr.levels))
      (max (deepest (rightOn.map WireExpr.levels)) (schemaLevels schema))))

def Expr.levels : Expr F → Nat
  | .column _ | .wildcard => 1
  | .literal _ => 2
  | .binary left _ right => 2 + max left.levels right.levels
  | .isNull expr _ | .cast expr _ | .aliased expr _ | .aggregate _ expr _ => 2 + expr.levels

def Field.levels (field : Field) : Nat := 1 + metadataLevels field.metadata.entries

def Schema.levels (schema : Schema) : Nat :=
  1 + max (deepest (schema.fields.map Field.levels)) (metadataLevels schema.metadata.entries)

def PhysicalPlan.levels : PhysicalPlan F → Nat
  | .scan _ _ _ _ filters schema => 2 + max (deepest (filters.map Expr.levels)) schema.levels
  | .projection _ input exprs schema =>
    2 + max input.levels (max (deepest (exprs.map Expr.levels)) schema.levels)
  | .filter _ input predicate schema => 2 + max input.levels (max predicate.levels schema.levels)
  | .hashAggregate _ input groupExprs aggregateExprs schema =>
    2 + max input.levels (max (deepest (groupExprs.map Expr.levels))
      (max (deepest (aggregateExprs.map Expr.levels)) schema.levels))
  | .sort _ input exprs schema | .topK _ input exprs _ schema =>
    2 + max input.levels (max (deepest (exprs.map fun sort => 1 + sort.expr.levels)) schema.levels)
  | .limit _ input _ schema => 2 + max input.levels schema.levels
  | .hashJoin _ left right _ leftOn rightOn schema =>
    2 + max left.levels (max right.levels (max (deepest (leftOn.map Expr.levels))
      (max (deepest (rightOn.map Expr.levels)) schema.levels)))

theorem encodeExpr_levels {expr : Expr F} {wire : WireExpr F} (encodes : encodeExpr expr = .ok wire) :
    wire.levels = expr.levels := by
  induction expr generalizing wire with
  | column name =>
    cases encodes
    rfl
  | literal value =>
    cases encodes
    rfl
  | binary left op right leftIh rightIh =>
    simp only [encodeExpr, bind_ok, pure_eq_ok] at encodes
    obtain ⟨leftWire, leftEncodes, rightWire, rightEncodes, rfl⟩ := encodes
    rw [WireExpr.levels, Expr.levels, leftIh leftEncodes, rightIh rightEncodes]
  | isNull expr negated ih | aliased expr name ih | aggregate function expr distinct ih =>
    simp only [encodeExpr, bind_ok, pure_eq_ok] at encodes
    obtain ⟨inner, innerEncodes, rfl⟩ := encodes
    rw [WireExpr.levels, Expr.levels, ih innerEncodes]
  | cast expr dataType ih =>
    simp only [encodeExpr, bind_ok, pure_eq_ok] at encodes
    obtain ⟨inner, innerEncodes, _, _, rfl⟩ := encodes
    rw [WireExpr.levels, Expr.levels, ih innerEncodes]
  | wildcard =>
    cases encodes
    rfl

theorem encodeExprs_levels {exprs : List (Expr F)} {wires : List (WireExpr F)}
    (encodes : exprs.mapM encodeExpr = .ok wires) :
    wires.map WireExpr.levels = exprs.map Expr.levels :=
  Rowwise.mapM_map (fun _ _ => encodeExpr_levels) encodes

theorem encodeSortExprs_levels {exprs : List (SortExpr F)} {wires : List (WireSortExpr F)}
    (encodes : exprs.mapM encodeSortExpr = .ok wires) :
    wires.map WireSortExpr.levels = exprs.map fun sort => 1 + sort.expr.levels := by
  refine Rowwise.mapM_map (fun sort wire one => ?_) encodes
  obtain ⟨inner, innerEncodes, same⟩ := bind_ok.mp one
  cases same
  rw [WireSortExpr.levels, encodeExpr_levels innerEncodes]

theorem encodeSchema_levels {schema : Schema} {wire : WireSchema}
    (encodes : encodeSchema schema = .ok wire) : schemaLevels (some wire) = schema.levels := by
  obtain ⟨fields, each, same⟩ := bind_ok.mp encodes
  cases same
  have levels : fields.map WireField.levels = schema.fields.map Field.levels := by
    refine Rowwise.mapM_map (fun field wire one => ?_) each
    obtain ⟨code, _, same⟩ := bind_ok.mp one
    cases same
    rfl
  rw [schemaLevels, Option.elim_some, WireSchema.levels, Schema.levels, levels]
  rfl

theorem encodePlan_levels {depth : Nat} {plan : PhysicalPlan F} {wire : WirePlan F}
    (encodes : encodePlan depth plan = .ok wire) : wire.levels = plan.levels := by
  induction plan generalizing depth wire with
  | scan id tableName provider projection filters schema =>
    simp only [encodePlan, bind_ok, pure_eq_ok] at encodes
    obtain ⟨_, _, _, _, _, filtersEncode, _, declared, rfl⟩ := encodes
    rw [WirePlan.levels, PhysicalPlan.levels, encodeExprs_levels filtersEncode,
      encodeSchema_levels declared]
  | projection id input exprs schema ih =>
    simp only [encodePlan, bind_ok, pure_eq_ok] at encodes
    obtain ⟨_, _, _, inputEncodes, _, exprsEncode, _, declared, rfl⟩ := encodes
    rw [WirePlan.levels, PhysicalPlan.levels, ih inputEncodes, encodeExprs_levels exprsEncode,
      encodeSchema_levels declared]
  | filter id input predicate schema ih =>
    simp only [encodePlan, bind_ok, pure_eq_ok] at encodes
    obtain ⟨_, _, _, inputEncodes, _, exprEncodes, _, declared, rfl⟩ := encodes
    rw [WirePlan.levels, PhysicalPlan.levels, ih inputEncodes, encodeExpr_levels exprEncodes,
      encodeSchema_levels declared]
  | hashAggregate id input groupExprs aggregateExprs schema ih =>
    simp only [encodePlan, bind_ok, pure_eq_ok] at encodes
    obtain ⟨_, _, _, inputEncodes, _, groupsEncode, _, aggregatesEncode, _, declared, rfl⟩ := encodes
    rw [WirePlan.levels, PhysicalPlan.levels, ih inputEncodes, encodeExprs_levels groupsEncode,
      encodeExprs_levels aggregatesEncode, encodeSchema_levels declared]
  | sort id input exprs schema ih =>
    simp only [encodePlan, bind_ok, pure_eq_ok] at encodes
    obtain ⟨_, _, _, inputEncodes, _, exprsEncode, _, declared, rfl⟩ := encodes
    rw [WirePlan.levels, PhysicalPlan.levels, ih inputEncodes, encodeSortExprs_levels exprsEncode,
      encodeSchema_levels declared]
  | topK id input exprs limit schema ih =>
    simp only [encodePlan, bind_ok, pure_eq_ok] at encodes
    obtain ⟨_, _, _, inputEncodes, _, exprsEncode, _, _, _, declared, rfl⟩ := encodes
    rw [WirePlan.levels, PhysicalPlan.levels, ih inputEncodes, encodeSortExprs_levels exprsEncode,
      encodeSchema_levels declared]
  | limit id input limit schema ih =>
    simp only [encodePlan, bind_ok, pure_eq_ok] at encodes
    obtain ⟨_, _, _, inputEncodes, _, _, _, declared, rfl⟩ := encodes
    rw [WirePlan.levels, PhysicalPlan.levels, ih inputEncodes, encodeSchema_levels declared]
  | hashJoin id left right joinType leftOn rightOn schema leftIh rightIh =>
    simp only [encodePlan, bind_ok, pure_eq_ok] at encodes
    obtain ⟨_, _, _, leftEncodes, _, rightEncodes, _, leftKeys, _, rightKeys, _, declared, rfl⟩ := encodes
    rw [WirePlan.levels, PhysicalPlan.levels, leftIh leftEncodes, rightIh rightEncodes,
      encodeExprs_levels leftKeys, encodeExprs_levels rightKeys, encodeSchema_levels declared]

-- Of the Protobuf library: an envelope is read back as it was written unless it nests too deep.
structure Prost.Inverts (prost : Prost F) (envelope : WirePlanEnvelope F) : Prop where
  shallow : envelope.root.levels ≤ recursionLimit → prost.decode (prost.encodeToVec envelope) = .ok envelope
  deep : recursionLimit < envelope.root.levels →
    ∃ error, prost.decode (prost.encodeToVec envelope) = .error error

end SparkX
