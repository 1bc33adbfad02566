import SparkX.Cluster.PlanCodec.RoundTrip

set_option autoImplicit false

namespace SparkX

open Rowwise

variable {F : Type}

def Expr.isAggregate (expr : Expr F) : Prop :=
  ∃ function argument distinct, expr.unalias = .aggregate function argument distinct

-- What execution relies on at every node of a plan. A filter of a scan is evaluated against the
-- columns that the scan reads.
def PhysicalPlan.WellTyped [FloatOps F] : PhysicalPlan F → Prop
  | .scan _ _ provider indices filters schema =>
    (∀ index ∈ indices.getD [], index < provider.schema.fields.length) ∧
      List.Forall₂ Field.matches schema.fields (projectedSchema provider.schema indices).fields ∧
      ∀ filter ∈ filters, filter.dataType (projectedSchema provider.schema indices) = .ok .boolean
  | .projection _ input exprs schema =>
    input.WellTyped ∧ schemaForExprs exprs input.schema = .ok schema
  | .filter _ input predicate schema =>
    input.WellTyped ∧ predicate.dataType input.schema = .ok .boolean ∧ schema = input.schema
  | .hashAggregate _ input groupExprs aggregateExprs schema =>
    input.WellTyped ∧ schemaForExprs (groupExprs ++ aggregateExprs) input.schema = .ok schema ∧
      ∀ expr ∈ aggregateExprs, expr.isAggregate
  | .sort _ input exprs schema | .topK _ input exprs _ schema =>
    input.WellTyped ∧ exprs ≠ [] ∧
      (∀ sort ∈ exprs, ∃ dataType, sort.expr.dataType input.schema = .ok dataType) ∧
      schema = input.schema
  | .limit _ input _ schema => input.WellTyped ∧ schema = input.schema
  | .hashJoin _ left right joinType leftOn rightOn schema =>
    left.WellTyped ∧ right.WellTyped ∧ leftOn ≠ [] ∧
      List.Forall₂ (fun leftKey rightKey => ∃ dataType, leftKey.dataType left.schema = .ok dataType ∧
        rightKey.dataType right.schema = .ok dataType) leftOn rightOn ∧
      schema = joinSchema left.schema right.schema joinType

def WireExpr.isAggregate : WireExpr F → Prop
  | .aggregate _ _ _ | .aliased (.aggregate _ _ _) _ => True
  | _ => False

-- The checks that the decoder leaves out: filters of scans are Boolean in the columns that the scan
-- reads from the catalog's table, and aggregate expressions are aggregates.
def WirePlan.Checked (catalog : Catalog F) : WirePlan F → Prop
  | .scan _ tableName hasProjection indices filters _ =>
    ∀ wire ∈ filters, ∃ filter provider, decodeExpr "expression" wire = .ok filter ∧
      catalog.table tableName = .ok provider ∧
      filter.dataType (projectedSchema provider.schema
        (if hasProjection then some (indices.map (·.val)) else none)) = .ok .boolean
  | .hashAggregate _ input _ aggregateExprs _ =>
    input.Checked catalog ∧ ∀ wire ∈ aggregateExprs, wire.isAggregate
  | .projection _ input _ _ | .filter _ input _ _ | .sort _ input _ _ | .topK _ input _ _ _
  | .limit _ input _ _ => input.Checked catalog
  | .hashJoin _ left right _ _ _ _ => left.Checked catalog ∧ right.Checked catalog
  | .absent | .unset => True

variable {expr : Expr F} {wire : WireExpr F}

theorem encodeExpr_aggregate (encodes : encodeExpr expr = .ok wire) :
    (∃ function argument distinct, expr = .aggregate function argument distinct) ↔
      ∃ code argument distinct, wire = .aggregate code argument distinct := by
  cases expr with
  | aggregate function argument distinct =>
    obtain ⟨written, _, same⟩ := bind_ok.mp encodes
    cases same
    exact ⟨fun _ => ⟨_, _, _, rfl⟩, fun _ => ⟨_, _, _, rfl⟩⟩
  | _ =>
    refine ⟨by rintro ⟨_, _, _, ⟨⟩⟩, ?_⟩
    rintro ⟨_, _, _, rfl⟩
    simp [encodeExpr, bind_ok, pure, Except.pure] at encodes

theorem WireExpr.isAggregate_iff :
    wire.isAggregate ↔ (∃ code argument distinct, wire = .aggregate code argument distinct) ∨
      ∃ code argument distinct column, wire = .aliased (.aggregate code argument distinct) column := by
  unfold WireExpr.isAggregate
  split <;> simp_all

theorem Expr.isAggregate_iff :
    expr.isAggregate ↔ (∃ function argument distinct, expr = .aggregate function argument distinct) ∨
      ∃ inner column, expr = .aliased inner column ∧
        ∃ function argument distinct, inner = .aggregate function argument distinct := by
  cases expr <;> simp [Expr.isAggregate, Expr.unalias]

theorem decodeExpr_isAggregate {name : String} (decoded : decodeExpr name wire = .ok expr) :
    expr.isAggregate ↔ wire.isAggregate := by
  obtain ⟨_, encodes⟩ := decodeExpr_ok.mp decoded
  rw [Expr.isAggregate_iff, WireExpr.isAggregate_iff, encodeExpr_aggregate encodes]
  refine or_congr_right ⟨?_, ?_⟩
  · rintro ⟨inner, column, rfl, aggregate⟩
    obtain ⟨written, innerEncodes, same⟩ := bind_ok.mp encodes
    cases same
    obtain ⟨code, argument, distinct, rfl⟩ := (encodeExpr_aggregate innerEncodes).mp aggregate
    exact ⟨_, _, _, _, rfl⟩
  · rintro ⟨code, argument, distinct, column, rfl⟩
    cases expr with
    | aliased inner column =>
      obtain ⟨written, innerEncodes, same⟩ := bind_ok.mp encodes
      obtain ⟨rfl, rfl⟩ := WireExpr.aliased.inj (Except.ok.inj same)
      exact ⟨_, _, rfl, (encodeExpr_aggregate innerEncodes).mpr ⟨_, _, _, rfl⟩⟩
    | _ => simp [encodeExpr, bind_ok, pure, Except.pure] at encodes

variable [FloatOps F]

theorem decoded_plan_well_typed (catalog : Catalog F) (depth : Nat) (name : String)
    (wire : WirePlan F) (plan : PhysicalPlan F)
    (decoded : decodePlan catalog depth name wire = .ok plan) :
    plan.WellTyped ↔ wire.Checked catalog := by
  induction wire generalizing depth name plan with
  | absent => cases decoded
  | unset =>
    obtain ⟨_, decoded⟩ := check_ok.mp decoded
    cases decoded
  | scan id tableName hasProjection projection filters schema =>
    simp only [decodePlan, bind_ok, lift_ok, resolveTable_ok, validateScanSchema_ok] at decoded
    obtain ⟨_, _, _, _, provider, found, indices, projected, declared, _, _, ⟨inside, matching⟩, exprs,
      read, same⟩ := decoded
    cases same
    have columns : indices = if hasProjection then some (projection.map (·.val)) else none := by
      unfold decodeProjection at projected
      split at projected
      · simp_all
      · split at projected <;> simp_all
    simp only [PhysicalPlan.WellTyped, WirePlan.Checked, mapM_forall read, found, ← columns]
    simpa [matching] using fun _ => inside
  | projection id input exprs schema ih =>
    simp only [decodePlan, bind_ok, lift_ok, validateSchema_ok] at decoded
    obtain ⟨_, _, child, read, parts, _, declared, _, expected, inferred, _, rfl, same⟩ := decoded
    cases same
    simp [PhysicalPlan.WellTyped, WirePlan.Checked, ih _ _ _ read, inferred]
  | filter id input predicate schema ih =>
    simp only [decodePlan, bind_ok, lift_ok, validateSchema_ok, rejectIf_eq_ok, not_not]
      at decoded
    obtain ⟨_, _, child, read, expr, _, _, typed, _, rfl, declared, _, _, rfl, same⟩ := decoded
    cases same
    simp [PhysicalPlan.WellTyped, WirePlan.Checked, ih _ _ _ read, typed]
  | hashAggregate id input groupExprs aggregateExprs schema ih =>
    simp only [decodePlan, bind_ok, lift_ok, validateSchema_ok] at decoded
    obtain ⟨_, _, child, read, groups, _, aggregates, aggregatesRead, declared, _, expected, inferred, _,
      rfl, same⟩ := decoded
    cases same
    have aggregate : (∀ expr ∈ aggregates, expr.isAggregate) ↔
        ∀ wire ∈ aggregateExprs, wire.isAggregate := by
      rw [mapM_forall aggregatesRead]
      refine forall₂_congr fun wire member => ⟨?_, fun shape => ?_⟩
      · rintro ⟨expr, decodes, shape⟩
        exact (decodeExpr_isAggregate decodes).mp shape
      · obtain ⟨expr, _, decodes⟩ := forall₂_item (mapM_ok.mp aggregatesRead) member
        exact ⟨expr, decodes, (decodeExpr_isAggregate decodes).mpr shape⟩
    simp [PhysicalPlan.WellTyped, WirePlan.Checked, ih _ _ _ read, inferred, aggregate]
  | sort id input exprs schema ih | topK id input exprs limit schema ih =>
    simp only [decodePlan, bind_ok, lift_ok, validateSchema_ok, decodeSortExprs_ok] at decoded
    obtain ⟨_, _, child, read, sorts, ⟨some, typed, _⟩, declared, _, _, rfl, same⟩ := decoded
    cases same
    have each (sort) (member : sort ∈ sorts) := (typed sort member).2
    simp only [PhysicalPlan.WellTyped, WirePlan.Checked, ih _ _ _ read]
    exact ⟨And.left, fun checked => ⟨checked, some, each, trivial⟩⟩
  | limit id input limit schema ih =>
    simp only [decodePlan, bind_ok, lift_ok, validateSchema_ok] at decoded
    obtain ⟨_, _, child, read, declared, _, _, rfl, same⟩ := decoded
    cases same
    simp [PhysicalPlan.WellTyped, WirePlan.Checked, ih _ _ _ read]
  | hashJoin id left right joinType leftOn rightOn schema leftIh rightIh =>
    simp only [decodePlan, bind_ok, lift_ok, validateSchema_ok, validateJoinKeys_ok] at decoded
    obtain ⟨_, _, first, leftRead, second, rightRead, kind, _, leftKeys, _, rightKeys, _, _,
      ⟨some, typed⟩, declared, _, _, rfl, same⟩ := decoded
    cases same
    simp only [PhysicalPlan.WellTyped, WirePlan.Checked, leftIh _ _ _ leftRead, rightIh _ _ _ rightRead]
    exact ⟨fun checked => ⟨checked.1, checked.2.1⟩,
      fun checked => ⟨checked.1, checked.2, some, typed, trivial⟩⟩

def filteredEvents (filter : WireExpr ℚ) : WirePlan ℚ :=
  .scan 0 "events" false [] [filter]
    (some {
      fields := [
        { name := "time", dataType := 3, nullable := true,
          metadata := [⟨"unit", "ms"⟩, ⟨"zone", "utc"⟩] },
        { name := "kind", dataType := 8, nullable := false, metadata := [] }]
      metadata := [] })

def filteredPlan (filter : Expr ℚ) : PhysicalPlan ℚ :=
  .scan 0 "events" events none [filter] (eventSchema "")

theorem decoded_plan_well_typed_events :
    decodePlan eventCatalog 0 "root" (filteredEvents (.isNull (.column "time") false)) =
        .ok (filteredPlan (.isNull (.column "time") false)) ∧
      (filteredPlan (.isNull (.column "time") false)).WellTyped := by
  refine ⟨rfl, (decoded_plan_well_typed eventCatalog 0 "root"
    (filteredEvents (.isNull (.column "time") false)) _ rfl).mpr ?_⟩
  intro wire member
  obtain rfl := List.mem_singleton.mp member
  exact ⟨_, _, rfl, rfl, rfl⟩

theorem decoded_scan_filter_int64 :
    decodePlan eventCatalog 0 "root" (filteredEvents (.column "time")) =
        .ok (filteredPlan (.column "time")) ∧
      ¬(filteredPlan (.column "time")).WellTyped := by
  refine ⟨rfl, fun ⟨_, _, boolean⟩ => ?_⟩
  exact absurd (boolean _ (List.mem_singleton_self _)) nofun

end SparkX
