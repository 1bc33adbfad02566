import SparkX.Cluster.PlanCodec.Nesting
import SparkX.Query.Planner

set_option autoImplicit false

namespace SparkX

variable {F : Type}

def PhysicalPlan.Legible : PhysicalPlan F → Prop
  | .scan _ tableName _ _ filters _ =>
    Text.isBlank tableName = false ∧ ∀ filter ∈ filters, filter.Named
  | .projection _ input exprs _ => input.Legible ∧ ∀ expr ∈ exprs, expr.Named
  | .filter _ input predicate _ => input.Legible ∧ predicate.Named
  | .hashAggregate _ input groupExprs aggregateExprs _ =>
    input.Legible ∧ ∀ expr ∈ groupExprs ++ aggregateExprs, expr.Named
  | .sort _ input exprs _ | .topK _ input exprs _ _ =>
    input.Legible ∧ exprs ≠ [] ∧ ∀ sort ∈ exprs, sort.expr.Named
  | .limit _ input _ _ => input.Legible
  | .hashJoin _ left right _ leftOn rightOn _ =>
    left.Legible ∧ right.Legible ∧ ∀ expr ∈ leftOn ++ rightOn, expr.Named

theorem qualifySchema_matches (schema : Schema) (qualifier : String) :
    List.Forall₂ Field.matches (qualifySchema schema qualifier).fields schema.fields := by
  rw [qualifySchema, List.forall₂_map_left_iff]
  exact List.forall₂_same.mpr fun field _ => ⟨unqualified_qualified qualifier field.name, rfl, rfl, rfl⟩

variable [FloatOps F] {catalog : Catalog F}

structure PhysicalPlan.Planned (catalog : Catalog F) (logical : LogicalPlan F)
    (plan : PhysicalPlan F) : Prop where
  schema : plan.schema = logical.schema
  bound : plan.rebind catalog = .ok plan
  accepted : plan.Accepted catalog ↔ plan.Legible

theorem derived {exprs : List (Expr F)} {schema : Schema} {fields : List Field}
    (typed : exprs.mapM (·.field schema) = .ok fields) :
    schemaForExprs exprs schema = .ok { fields } := by
  rw [schemaForExprs, typed]
  rfl

variable {plan : PhysicalPlan F}

variable {logical : LogicalPlan F}

open PhysicalPlanner in
theorem build_planned (built : logical.Built catalog.offers) {id next : OperatorId}
    (planned : build catalog logical id = .ok (plan, next)) : plan.Planned catalog logical := by
  induction built generalizing id next plan with
  | @scan table schema known =>
    simp only [LogicalPlan.ofScan, build, resolveProjection, bind_ok, pure_eq_ok, lift_ok,
      Except.ok.injEq, Prod.mk.injEq] at planned
    obtain ⟨_, _, provider, found, _, rfl, rfl, rfl⟩ := planned
    obtain ⟨other, again, offered⟩ := known
    obtain rfl := Except.ok.inj (found.symm.trans again)
    refine ⟨rfl, by rw [PhysicalPlan.rebind, found]; rfl, ?_⟩
    have matching : List.Forall₂ Field.matches schema.fields provider.schema.fields := by
      rcases offered with rfl | ⟨qualifier, rfl⟩
      · exact List.forall₂_same.mpr fun _ _ => ⟨rfl, rfl, rfl, rfl⟩
      · exact qualifySchema_matches provider.schema qualifier
    simp [PhysicalPlan.Accepted, PhysicalPlan.Legible, found, projectedSchema, matching]
  | project below made ih =>
    obtain ⟨fields, typed, rfl⟩ := LogicalPlan.ofProject_ok.mp made
    simp only [build, bind_ok, pure_eq_ok, Prod.exists, Prod.mk.injEq] at planned
    obtain ⟨_, _, child, _, childBuilt, rfl, rfl⟩ := planned
    obtain ⟨schemas, bound, accepted⟩ := ih childBuilt
    refine ⟨rfl, by rw [PhysicalPlan.rebind, bound]; rfl, ?_⟩
    simp only [PhysicalPlan.Accepted, PhysicalPlan.Legible, accepted, schemas, derived typed, and_true]
  | filter below made ih =>
    obtain ⟨boolean, rfl⟩ := LogicalPlan.ofFilter_ok.mp made
    simp only [build, bind_ok, pure_eq_ok, Prod.exists, Prod.mk.injEq] at planned
    obtain ⟨_, _, child, _, childBuilt, rfl, rfl⟩ := planned
    obtain ⟨schemas, bound, accepted⟩ := ih childBuilt
    refine ⟨rfl, by rw [PhysicalPlan.rebind, bound]; rfl, ?_⟩
    simp only [PhysicalPlan.Accepted, PhysicalPlan.Legible, accepted, schemas, boolean, and_true]
  | aggregate below made ih =>
    obtain ⟨fields, typed, rfl⟩ := LogicalPlan.ofAggregate_ok.mp made
    simp only [build, bind_ok, pure_eq_ok, Prod.exists, Prod.mk.injEq] at planned
    obtain ⟨_, _, child, _, childBuilt, rfl, rfl⟩ := planned
    obtain ⟨schemas, bound, accepted⟩ := ih childBuilt
    refine ⟨rfl, by rw [PhysicalPlan.rebind, bound]; rfl, ?_⟩
    simp only [PhysicalPlan.Accepted, PhysicalPlan.Legible, accepted, schemas, derived typed, and_true]
  | sort below made ih =>
    obtain ⟨typed, rfl⟩ := LogicalPlan.ofSort_ok.mp made
    simp only [build, bind_ok, pure_eq_ok, Prod.exists, Prod.mk.injEq] at planned
    obtain ⟨_, _, child, _, childBuilt, rfl, rfl⟩ := planned
    obtain ⟨schemas, bound, accepted⟩ := ih childBuilt
    refine ⟨rfl, by rw [PhysicalPlan.rebind, bound]; rfl, ?_⟩
    simp only [PhysicalPlan.Accepted, PhysicalPlan.Legible, accepted, schemas, and_true]
    grind
  | limit below ih =>
    rcases build_limit planned with ⟨_, _, _, child, rfl, inputBuilt, rfl⟩ | ⟨_, child, _, childBuilt, rfl⟩
    · -- The plan of the sort alone says the same about the child.
      obtain ⟨schemas, bound, accepted⟩ := ih inputBuilt
      simp only [PhysicalPlan.rebind, bind_ok, pure_eq_ok, PhysicalPlan.sort.injEq] at bound
      obtain ⟨_, childBound, _, rfl, _⟩ := bound
      exact ⟨rfl, by rw [PhysicalPlan.rebind, childBound]; rfl, accepted⟩
    · obtain ⟨schemas, bound, accepted⟩ := ih childBuilt
      refine ⟨rfl, by rw [PhysicalPlan.rebind, bound]; rfl, ?_⟩
      simp only [PhysicalPlan.Accepted, PhysicalPlan.Legible, accepted, schemas, and_true]
  | join first second made firstIh secondIh =>
    obtain ⟨some, typed, rfl⟩ := LogicalPlan.ofJoin_ok.mp made
    simp only [build, bind_ok, pure_eq_ok, Prod.exists, Prod.mk.injEq] at planned
    obtain ⟨_, _, left, _, leftBuilt, right, _, rightBuilt, rfl, rfl⟩ := planned
    obtain ⟨leftSchemas, leftBound, leftAccepted⟩ := firstIh leftBuilt
    obtain ⟨rightSchemas, rightBound, rightAccepted⟩ := secondIh rightBuilt
    refine ⟨rfl, by rw [PhysicalPlan.rebind, leftBound, rightBound]; rfl, ?_⟩
    simp only [PhysicalPlan.Accepted, PhysicalPlan.Legible, leftAccepted, rightAccepted, leftSchemas,
      rightSchemas, ne_eq, some, not_false_eq_true, typed, true_and]
    exact and_congr_right fun _ => and_congr_right fun _ => and_iff_left rfl

variable {wire : WirePlan F}

theorem decodePlan_planned (planned : plan.Planned catalog logical) (encodes : encodePlan 0 plan = .ok wire) :
    (∃ decoded, decodePlan catalog 0 "root" wire = .ok decoded) ↔ plan.Legible := by
  rw [← planned.accepted]
  constructor
  · rintro ⟨decoded, decodes⟩
    -- The decoded plan is the encoded one, since its tables are those of the catalog.
    have same := decodePlan_rebind encodes decodes
    rw [planned.bound] at same
    exact Except.ok.inj same ▸ (decodePlan_ok.mp decodes).1
  · intro accepted
    exact ⟨plan, decodePlan_ok.mpr ⟨accepted, wire, encodes, .refl wire⟩⟩

omit [FloatOps F] in
theorem encodePlan_present {depth : Nat} (encodes : encodePlan depth plan = .ok wire) : wire ≠ .absent := by
  rintro rfl
  have levels := encodePlan_levels encodes
  cases plan <;> simp only [WirePlan.levels, PhysicalPlan.levels] at levels <;> omega

variable {prost : Prost F} {bytes : List UInt8} {root : WirePlan F}

omit [FloatOps F] in
theorem decodeEnvelope_ok :
    decodeEnvelope prost bytes = .ok root ↔ validateFragmentSize bytes.length = .ok () ∧
      prost.decode bytes = .ok ⟨planCodecVersion, root⟩ ∧ root ≠ .absent := by
  simp only [decodeEnvelope, bind_ok, Except.mapError_eq_ok, rejectIf_eq_ok, not_not]
  constructor
  · rintro ⟨_, size, ⟨version, found⟩, decodes, _, rfl, opened⟩
    dsimp only at opened
    split at opened
    · cases opened
    next present =>
      cases opened
      exact ⟨size, decodes, present⟩
  · rintro ⟨size, decodes, present⟩
    refine ⟨(), size, _, decodes, (), rfl, ?_⟩
    cases root <;> simp_all

omit [FloatOps F] in
theorem decodeEnvelope_encoded (encodes : encodePlan 0 plan = .ok wire)
    (inverts : prost.Inverts ⟨planCodecVersion, wire⟩) (encoded : PlanCodec.encode prost plan = .ok bytes) :
    decodeEnvelope prost bytes = .ok root ↔ plan.levels ≤ recursionLimit ∧ root = wire := by
  simp only [PlanCodec.encode, encodes, bind_ok, Except.ok.injEq, exists_eq_left',
    pure_eq_ok] at encoded
  obtain ⟨_, size, rfl⟩ := encoded
  rw [decodeEnvelope_ok, ← encodePlan_levels encodes]
  by_cases shallow : wire.levels ≤ recursionLimit
  · rw [inverts.shallow shallow]
    have present := encodePlan_present encodes
    grind
  · obtain ⟨error, failed⟩ := inverts.deep (Nat.lt_of_not_le shallow)
    simp [failed, shallow]

theorem encoded_plan_decodes (catalog : Catalog F) (prost : Prost F) (logical : LogicalPlan F)
    (plan : PhysicalPlan F) (bytes : List UInt8) (built : logical.Built catalog.offers)
    (planned : PhysicalPlanner.createPhysicalPlan catalog logical = .ok plan)
    (inverts : ∀ wire, encodePlan 0 plan = .ok wire → prost.Inverts ⟨planCodecVersion, wire⟩)
    (encoded : PlanCodec.encode prost plan = .ok bytes) :
    (PlanCodec.validateFragment prost bytes = .ok () ∧
        ∃ decoded, PlanCodec.decode prost bytes catalog = .ok decoded) ↔
      plan.levels ≤ recursionLimit ∧ plan.Legible := by
  obtain ⟨⟨physical, next⟩, builds, same⟩ := bind_ok.mp planned
  obtain rfl : plan = physical := (pure_eq_ok.mp same).symm
  have fits := build_planned built builds
  obtain ⟨wire, encodes, _⟩ := bind_ok.mp encoded
  have opened (root : WirePlan F) : decodeEnvelope prost bytes = .ok root ↔
      plan.levels ≤ recursionLimit ∧ root = wire :=
    decodeEnvelope_encoded encodes (inverts wire encodes) encoded
  rw [← decodePlan_planned fits encodes]
  constructor
  · rintro ⟨_, decoded, decodes⟩
    obtain ⟨root, envelope, decodes⟩ := bind_ok.mp decodes
    obtain ⟨shallow, rfl⟩ := (opened root).mp (lift_ok.mp envelope)
    exact ⟨shallow, decoded, decodes⟩
  · rintro ⟨shallow, decoded, decodes⟩
    have envelope := (opened wire).mpr ⟨shallow, rfl⟩
    refine ⟨?_, decoded, bind_ok.mpr ⟨wire, lift_ok.mpr envelope, decodes⟩⟩
    rw [PlanCodec.validateFragment, envelope]
    exact validateWirePlan_ok decodes

-- `SELECT TRUE AS column` from the table `t` without columns.
def aliasLogical (column : String) : LogicalPlan ℚ :=
  .projection (.ofScan "t" { fields := [] }) [.aliased (.literal (.boolean true)) column]
    { fields := [{ name := column, dataType := .boolean, nullable := true }] }

def blankAliasBytes : List UInt8 :=
  [8, 2, 18, 31, 18, 29, 18, 9, 10, 7, 8, 1, 18, 1, 116, 50, 0, 26, 8, 50, 6, 10, 4, 18, 2, 16, 1, 34,
    6, 10, 4, 16, 1, 24, 1]

theorem aliasLogical_built (column : String) :
    (aliasLogical column).Built columnlessCatalog.offers :=
  have made : LogicalPlan.ofProject (.ofScan "t" { fields := [] })
      [.aliased (.literal (.boolean true)) column] = .ok (aliasLogical column) := rfl
  .project (.scan ⟨columnless, rfl, .inl rfl⟩) made

theorem aliasProst_inverts (column : String) (message : List UInt8) (wire : WirePlan ℚ)
    (encodes : encodePlan 0 (aliasPlan column) = .ok wire) :
    (aliasProst column message).Inverts ⟨planCodecVersion, wire⟩ := by
  obtain rfl : (aliasEnvelope column).root = wire := Except.ok.inj encodes
  have shallow : (aliasEnvelope column).root.levels ≤ recursionLimit := Nat.le_of_ble_eq_true rfl
  exact ⟨fun _ => if_pos rfl, fun deep => absurd shallow (Nat.not_le.mpr deep)⟩

theorem encoded_plan_decodes_alias :
    PlanCodec.encode (aliasProst "a" aliasBytes) (aliasPlan "a") = .ok aliasBytes ∧
      PlanCodec.validateFragment (aliasProst "a" aliasBytes) aliasBytes = .ok () ∧
      ∃ decoded, PlanCodec.decode (aliasProst "a" aliasBytes) aliasBytes columnlessCatalog =
        .ok decoded := by
  refine ⟨rfl, (encoded_plan_decodes columnlessCatalog (aliasProst "a" aliasBytes) (aliasLogical "a")
    (aliasPlan "a") aliasBytes (aliasLogical_built "a") rfl (aliasProst_inverts "a" aliasBytes) rfl).mpr ?_⟩
  exact ⟨by decide, ⟨by decide, nofun⟩, by simp [Expr.Named]; decide⟩

theorem encoded_blank_alias_rejected :
    (aliasLogical "").Built columnlessCatalog.offers ∧
      PhysicalPlanner.createPhysicalPlan columnlessCatalog (aliasLogical "") = .ok (aliasPlan "") ∧
      (∀ wire, encodePlan 0 (aliasPlan "") = .ok wire →
        (aliasProst "" blankAliasBytes).Inverts ⟨planCodecVersion, wire⟩) ∧
      PlanCodec.encode (aliasProst "" blankAliasBytes) (aliasPlan "") = .ok blankAliasBytes ∧
      PlanCodec.validateFragment (aliasProst "" blankAliasBytes) blankAliasBytes =
        .error (codecError "expression alias must not be empty") :=
  ⟨aliasLogical_built "", rfl, aliasProst_inverts "" blankAliasBytes, rfl, rfl⟩

end SparkX
