import SparkX.Cluster.PlanCodec.Validation

set_option autoImplicit false

namespace SparkX

variable {F : Type}

def Expr.TypedIn (schema : Schema) (expr : Expr F) : Prop :=
  ∃ dataType, expr.dataType schema = .ok dataType

def WirePlan.Denotes [FloatOps F] (catalog : Catalog F) (depth : Nat) (wire : WirePlan F)
    (plan : PhysicalPlan F) : Prop :=
  plan.Accepted catalog ∧ ∃ encoded, encodePlan depth plan = .ok encoded ∧ encoded.Similar wire

-- Decoding the tree asks for the type of `expr` in `schema`.
def WirePlan.Infers [FloatOps F] (catalog : Catalog F) : Nat → WirePlan F → Schema → Expr F → Prop
  | _, .absent, _, _ | _, .unset, _, _ | _, .scan .., _, _ => False
  | depth, .projection _ input exprs declared, schema, expr =>
    depth < maxPlanDepth ∧ (input.Infers catalog (depth + 1) schema expr ∨
      ∃ child before after, input.Denotes catalog (depth + 1) child ∧ child.schema = schema ∧
        decodeExprs exprs = .ok (before ++ expr :: after) ∧
        (∃ known, decodeRequiredSchema declared "projection" = .ok known) ∧
        ∀ other ∈ before, other.TypedIn schema)
  | depth, .filter _ input predicate _, schema, expr =>
    depth < maxPlanDepth ∧ (input.Infers catalog (depth + 1) schema expr ∨
      ∃ child, input.Denotes catalog (depth + 1) child ∧ child.schema = schema ∧
        decodeExpr "filter predicate" predicate = .ok expr)
  | depth, .hashAggregate _ input groupExprs aggregateExprs declared, schema, expr =>
    depth < maxPlanDepth ∧ (input.Infers catalog (depth + 1) schema expr ∨
      ∃ child groups aggregates before after,
        input.Denotes catalog (depth + 1) child ∧ child.schema = schema ∧
        decodeExprs groupExprs = .ok groups ∧ decodeExprs aggregateExprs = .ok aggregates ∧
        (∃ known, decodeRequiredSchema declared "hash aggregate" = .ok known) ∧
        groups ++ aggregates = before ++ expr :: after ∧ ∀ other ∈ before, other.TypedIn schema)
  | depth, .sort _ input exprs _, schema, expr | depth, .topK _ input exprs _ _, schema, expr =>
    depth < maxPlanDepth ∧ (input.Infers catalog (depth + 1) schema expr ∨
      ∃ child before wire after, input.Denotes catalog (depth + 1) child ∧ child.schema = schema ∧
        exprs = before ++ wire :: after ∧ decodeExpr "sort expression" wire.expr = .ok expr ∧
        ∀ other ∈ before, ∃ sort, decodeSortExpr schema other = .ok sort)
  | depth, .limit _ input _ _, schema, expr =>
    depth < maxPlanDepth ∧ input.Infers catalog (depth + 1) schema expr
  | depth, .hashJoin _ left right joinType leftOn rightOn _, schema, expr =>
    depth < maxPlanDepth ∧ (left.Infers catalog (depth + 1) schema expr ∨
      ∃ first, left.Denotes catalog (depth + 1) first ∧
        (right.Infers catalog (depth + 1) schema expr ∨
          ∃ second leftKeys rightKeys before keys after,
            right.Denotes catalog (depth + 1) second ∧
            (∃ kind, decodeJoinType joinType = .ok kind) ∧
            decodeExprs leftOn = .ok leftKeys ∧ decodeExprs rightOn = .ok rightKeys ∧
            leftKeys.length = rightKeys.length ∧
            leftKeys.zip rightKeys = before ++ keys :: after ∧
            (∀ other ∈ before, validateJoinKey first.schema second.schema other = .ok ()) ∧
            (keys.1 = expr ∧ first.schema = schema ∨
              keys.1.TypedIn first.schema ∧ keys.2 = expr ∧ second.schema = schema)))

theorem schemaForExprs_panics [FloatOps F] {exprs : List (Expr F)} {schema : Schema} :
    Panics (schemaForExprs exprs schema) ↔ ∃ before expr after, exprs = before ++ expr :: after ∧
      (∀ other ∈ before, other.TypedIn schema) ∧ expr.meetsNestedAlias schema := by
  have typed (expr : Expr F) : (∃ field, expr.field schema = .ok field) ↔ expr.TypedIn schema := by
    simp [Expr.field_ok, Expr.TypedIn]
  simp only [schemaForExprs, panics_bind, panics_mapM, Expr.field_panics, typed, panics_pure,
    and_false, exists_false, or_false]

theorem decodeSortExprs_panics {wires : List (WireSortExpr F)} {schema : Schema} :
    Panics (decodeSortExprs wires schema) ↔ ∃ before wire after, wires = before ++ wire :: after ∧
      (∀ other ∈ before, ∃ sort, decodeSortExpr schema other = .ok sort) ∧
      ∃ expr, decodeExpr "sort expression" wire.expr = .ok expr ∧ expr.meetsNestedAlias schema := by
  have one (wire : WireSortExpr F) : Panics (decodeSortExpr schema wire) ↔
      ∃ expr, decodeExpr "sort expression" wire.expr = .ok expr ∧ expr.meetsNestedAlias schema := by
    simp only [decodeSortExpr, panics_bind, panics_lift, lift_ok, Expr.dataType_panics, panics_pure,
      and_false, exists_false, or_false, false_or]
  simp only [decodeSortExprs, panics_bind, panics_mapM, one, panics_rejectIf, panics_pure, and_false,
    exists_false, or_false]

theorem validateJoinKeys_panics {left right : List (Expr F)} {leftSchema rightSchema : Schema} :
    Panics (validateJoinKeys left leftSchema right rightSchema) ↔ left.length = right.length ∧
      ∃ before keys after, left.zip right = before ++ keys :: after ∧
        (∀ other ∈ before, validateJoinKey leftSchema rightSchema other = .ok ()) ∧
        (keys.1.meetsNestedAlias leftSchema ∨
          keys.1.TypedIn leftSchema ∧ keys.2.meetsNestedAlias rightSchema) := by
  have one (keys : Expr F × Expr F) : Panics (validateJoinKey leftSchema rightSchema keys) ↔
      (keys.1.meetsNestedAlias leftSchema ∨
        keys.1.TypedIn leftSchema ∧ keys.2.meetsNestedAlias rightSchema) := by
    simp only [validateJoinKey, panics_bind, Expr.dataType_panics, Expr.TypedIn, panics_rejectIf,
      and_false, exists_false, or_false, exists_and_right]
  simp only [validateJoinKeys, panics_bind, panics_forM, panics_rejectIf, rejectIf_eq_ok, one, false_or,
    exists_const, not_or, not_not]
  constructor
  · rintro ⟨⟨_, lengths⟩, before, keys, after, split, passed, meets⟩
    refine ⟨lengths, before, keys, after, split, fun other member => ?_, meets⟩
    obtain ⟨_, done⟩ := passed other member
    exact done
  · rintro ⟨lengths, before, keys, after, split, passed, meets⟩
    refine ⟨⟨?_, lengths⟩, before, keys, after, split, fun other member => ⟨(), passed other member⟩, meets⟩
    rintro none
    simp [List.isEmpty_iff.mp none] at split

variable [FloatOps F] {catalog : Catalog F}

theorem decodePlan_denotes {depth : Nat} {name : String} {wire : WirePlan F} {plan : PhysicalPlan F} :
    decodePlan catalog depth name wire = .ok plan ↔ wire.Denotes catalog depth plan :=
  decodePlan_ok

theorem decodePlan_panics {depth : Nat} {name : String} {wire : WirePlan F} :
    Panics (decodePlan catalog depth name wire) ↔
      ∃ schema expr, wire.Infers catalog depth schema expr ∧ expr.meetsNestedAlias schema := by
  induction wire generalizing depth name with
  | absent => simp [decodePlan, WirePlan.Infers]
  | unset => simp [decodePlan, WirePlan.Infers, panics_bind]
  | scan id tableName hasProjection projection filters schema =>
    simp only [decodePlan, WirePlan.Infers, panics_bind, panics_lift, panics_rejectIf, panics_pure,
      and_false, false_and, exists_false, or_false]
  | projection id input exprs schema ih =>
    simp only [decodePlan, panics_bind, panics_lift, panics_pure, lift_ok, checkDepth_ok, ih,
      schemaForExprs_panics, decodePlan_denotes, WirePlan.Infers, and_false, exists_false, or_false,
      false_or, exists_const]
    grind
  | filter id input predicate schema ih =>
    simp only [decodePlan, panics_bind, panics_lift, panics_pure, lift_ok, checkDepth_ok, ih,
      decodePlan_denotes, WirePlan.Infers, and_false, exists_false, or_false,
      false_or, Expr.dataType_panics, panics_rejectIf, exists_const]
    grind
  | hashAggregate id input groupExprs aggregateExprs schema ih =>
    simp only [decodePlan, panics_bind, panics_lift, panics_pure, lift_ok, checkDepth_ok, ih,
      schemaForExprs_panics, decodePlan_denotes, WirePlan.Infers, and_false, exists_false, or_false,
      false_or, exists_const]
    grind
  | sort id input exprs schema ih | topK id input exprs limit schema ih =>
    simp only [decodePlan, panics_bind, panics_lift, panics_pure, lift_ok, checkDepth_ok, ih,
      decodeSortExprs_panics, decodePlan_denotes, WirePlan.Infers, and_false, exists_false, or_false,
      false_or, exists_const]
    grind
  | limit id input limit schema ih =>
    simp only [decodePlan, panics_bind, panics_lift, panics_pure, lift_ok, checkDepth_ok, ih,
      decodePlan_denotes, WirePlan.Infers, and_false, exists_false, or_false,
      false_or, exists_const]
    grind
  | hashJoin id left right joinType leftOn rightOn schema leftIh rightIh =>
    simp only [decodePlan, panics_bind, panics_lift, panics_pure, lift_ok, checkDepth_ok, leftIh, rightIh,
      validateJoinKeys_panics, decodePlan_denotes, WirePlan.Infers, and_false, exists_false, or_false,
      false_or, exists_const]
    grind

theorem decode_never_panics (prost : Prost F) (bytes : List UInt8) (catalog : Catalog F) :
    (∀ message, PlanCodec.decode prost bytes catalog ≠ .error (.panic message)) ↔
      ∀ root schema expr, decodeEnvelope prost bytes = .ok root →
        root.Infers catalog 0 schema expr → ¬expr.meetsNestedAlias schema := by
  have panics : Panics (PlanCodec.decode prost bytes catalog) ↔ ∃ root,
      decodeEnvelope prost bytes = .ok root ∧
        ∃ schema expr, root.Infers catalog 0 schema expr ∧ expr.meetsNestedAlias schema := by
    simp only [PlanCodec.decode, panics_bind, panics_lift, lift_ok, decodePlan_panics, false_or]
  rw [Panics] at panics
  rw [← not_exists, panics]
  grind

-- `TRUE AS a AS b` over a scan of the table `t` without columns.
def nestedAliasBytes : List UInt8 :=
  [8, 2, 18, 33, 18, 31, 18, 7, 10, 5, 18, 1, 116, 50, 0, 26, 18, 50, 16, 10, 11, 50, 9, 10, 4, 18, 2,
    16, 1, 18, 1, 97, 18, 1, 98, 34, 0]

def nestedAliasEnvelope : WirePlanEnvelope ℚ :=
  { version := 2
    root := .projection 0 (.scan 0 "t" false [] [] (some { fields := [], metadata := [] }))
      [.aliased (.aliased (.literal (.boolean true)) "a") "b"] (some { fields := [], metadata := [] }) }

def nestedAliasProst : Prost ℚ :=
  .single nestedAliasBytes nestedAliasEnvelope

theorem decode_nested_alias_panics :
    PlanCodec.decode nestedAliasProst nestedAliasBytes columnlessCatalog =
      .error (.panic "internal error: entered unreachable code") :=
  rfl

end SparkX
