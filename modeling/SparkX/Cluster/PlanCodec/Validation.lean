import SparkX.Cluster.PlanCodec.RoundTrip

set_option autoImplicit false

namespace SparkX

open Rowwise

variable {F : Type}

theorem validateWireExpr_ok {name : String} {wire : WireExpr F} {expr : Expr F}
    (decoded : decodeExpr name wire = .ok expr) : validateWireExpr name wire = .ok () := by
  rw [validateWireExpr, decoded]
  rfl

theorem validateWireExprs_ok {wires : List (WireExpr F)} {exprs : List (Expr F)}
    (decoded : decodeExprs wires = .ok exprs) : validateWireExprs wires = .ok () := by
  refine forM_ok.mpr fun wire member => ?_
  obtain ⟨expr, _, read⟩ := forall₂_item (mapM_ok.mp decoded) member
  exact validateWireExpr_ok read

theorem validateWireSchema_ok {wire : Option WireSchema} {operator : String} {schema : Schema}
    (decoded : decodeRequiredSchema wire operator = .ok schema) :
    validateWireSchema wire operator = .ok () := by
  rw [validateWireSchema, decoded]
  rfl

theorem validateWireSortExprs_ok {wires : List (WireSortExpr F)} {schema : Schema}
    {exprs : List (SortExpr F)} (decoded : decodeSortExprs wires schema = .ok exprs) :
    validateWireSortExprs wires = .ok () := by
  obtain ⟨read, each, decoded⟩ := bind_ok.mp decoded
  obtain ⟨some, _⟩ := check_ok.mp decoded
  have pointwise := mapM_ok.mp each
  refine check_ok.mpr ⟨rejectIf_ok.mpr ?_, forM_ok.mpr fun wire member => ?_⟩
  · intro none
    rw [List.isEmpty_iff.mp none, List.forall₂_nil_left_iff] at pointwise
    exact rejectIf_ok.mp some (List.isEmpty_iff.mpr pointwise)
  · obtain ⟨sort, _, read⟩ := forall₂_item pointwise member
    obtain ⟨expr, decodes, _⟩ := bind_ok.mp read
    exact validateWireExpr_ok (lift_ok.mp decodes)

variable [FloatOps F] {catalog : Catalog F}

theorem validateWirePlan_ok {depth : Nat} {name : String} {wire : WirePlan F} {plan : PhysicalPlan F}
    (decoded : decodePlan catalog depth name wire = .ok plan) :
    validateWirePlan depth name wire = .ok () := by
  induction wire generalizing depth name plan with
  | absent => cases decoded
  | unset =>
    obtain ⟨_, decoded⟩ := check_ok.mp decoded
    cases decoded
  | scan id tableName hasProjection projection filters schema =>
    simp only [decodePlan, bind_ok, lift_ok, rejectIf_eq_ok] at decoded
    obtain ⟨_, shallow, _, named, provider, _, indices, projected, declared, typed, _, _, exprs, read,
      _⟩ := decoded
    rw [validateWirePlan, shallow, rejectIf_ok.mpr named, projected, validateWireSchema_ok typed]
    exact validateWireExprs_ok read
  | projection id input exprs schema ih =>
    simp only [decodePlan, bind_ok, lift_ok] at decoded
    obtain ⟨_, shallow, child, childRead, parts, read, declared, typed, _⟩ := decoded
    rw [validateWirePlan, shallow, ih childRead, validateWireSchema_ok typed]
    exact validateWireExprs_ok read
  | filter id input predicate schema ih =>
    simp only [decodePlan, bind_ok, lift_ok] at decoded
    obtain ⟨_, shallow, child, childRead, expr, read, _, _, _, _, declared, typed, _⟩ := decoded
    rw [validateWirePlan, shallow, ih childRead, validateWireSchema_ok typed]
    exact validateWireExpr_ok read
  | hashAggregate id input groupExprs aggregateExprs schema ih =>
    simp only [decodePlan, bind_ok, lift_ok] at decoded
    obtain ⟨_, shallow, child, childRead, groups, groupsRead, aggregates, aggregatesRead, declared,
      typed, _⟩ := decoded
    rw [validateWirePlan, shallow, ih childRead, validateWireSchema_ok typed,
      validateWireExprs_ok groupsRead]
    exact validateWireExprs_ok aggregatesRead
  | sort id input exprs schema ih | topK id input exprs limit schema ih =>
    simp only [decodePlan, bind_ok, lift_ok] at decoded
    obtain ⟨_, shallow, child, childRead, sorts, read, declared, typed, _⟩ := decoded
    rw [validateWirePlan, shallow, ih childRead, validateWireSchema_ok typed]
    exact validateWireSortExprs_ok read
  | limit id input limit schema ih =>
    simp only [decodePlan, bind_ok, lift_ok] at decoded
    obtain ⟨_, shallow, child, childRead, declared, typed, _⟩ := decoded
    rw [validateWirePlan, shallow, ih childRead]
    exact validateWireSchema_ok typed
  | hashJoin id left right joinType leftOn rightOn schema leftIh rightIh =>
    simp only [decodePlan, bind_ok, lift_ok] at decoded
    obtain ⟨_, shallow, first, leftRead, second, rightRead, kind, known, leftKeys, leftDecodes,
      rightKeys, rightDecodes, _, paired, declared, typed, _⟩ := decoded
    -- The decoder compares the numbers of decoded keys, the check those on the wire.
    have lengths : leftOn.length = rightOn.length := by
      have leftLength := (mapM_ok.mp leftDecodes).length_eq
      have rightLength := (mapM_ok.mp rightDecodes).length_eq
      have keys := (validateJoinKeys_ok.mp paired).2.length_eq
      omega
    rw [validateWirePlan, shallow, leftIh leftRead, rightIh rightRead, known,
      validateWireSchema_ok typed, rejectIf_ok.mpr (not_not.mpr lengths),
      validateWireExprs_ok leftDecodes]
    exact validateWireExprs_ok rightDecodes

theorem validate_fragment_of_decode (prost : Prost F) (bytes : List UInt8) (catalog : Catalog F)
    (plan : PhysicalPlan F) (decoded : PlanCodec.decode prost bytes catalog = .ok plan) :
    PlanCodec.validateFragment prost bytes = .ok () := by
  obtain ⟨wire, opened, decodes⟩ := bind_ok.mp decoded
  rw [PlanCodec.validateFragment, lift_ok.mp opened]
  exact validateWirePlan_ok decodes

-- The library as far as one message goes.
def Prost.single (message : List UInt8) (envelope : WirePlanEnvelope ℚ) : Prost ℚ :=
  { encodeToVec := fun _ => message
    decode := fun bytes => if bytes = message then .ok envelope else .error "invalid tag" }

def columnless : TableProvider ℚ :=
  MemoryTable.provider { schema := { fields := [] }, partitions := [[]], uniform := by simp }

def columnlessCatalog : Catalog ℚ :=
  { tables := fun name => if name = "t" then some columnless else none }

def aliasPlan (column : String) : PhysicalPlan ℚ :=
  .projection 0 (.scan 1 "t" columnless none [] { fields := [] })
    [.aliased (.literal (.boolean true)) column]
    { fields := [{ name := column, dataType := .boolean, nullable := true }] }

def aliasEnvelope (column : String) : WirePlanEnvelope ℚ :=
  { version := 2
    root := .projection 0 (.scan 1 "t" false [] [] (some { fields := [], metadata := [] }))
      [.aliased (.literal (.boolean true)) column]
      (some {
        fields := [{ name := column, dataType := 1, nullable := true, metadata := [] }]
        metadata := [] }) }

def aliasProst (column : String) (message : List UInt8) : Prost ℚ :=
  .single message (aliasEnvelope column)

def aliasBytes : List UInt8 :=
  [8, 2, 18, 37, 18, 35, 18, 9, 10, 7, 8, 1, 18, 1, 116, 50, 0, 26, 11, 50, 9, 10, 4, 18, 2, 16, 1, 18,
    1, 97, 34, 9, 10, 7, 10, 1, 97, 16, 1, 24, 1]

theorem validate_fragment_of_decode_alias :
    PlanCodec.decode (aliasProst "a" aliasBytes) aliasBytes columnlessCatalog = .ok (aliasPlan "a") ∧
      PlanCodec.validateFragment (aliasProst "a" aliasBytes) aliasBytes = .ok () :=
  ⟨rfl, validate_fragment_of_decode (aliasProst "a" aliasBytes) aliasBytes columnlessCatalog _ rfl⟩

end SparkX
