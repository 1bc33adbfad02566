import SparkX.Cluster.PlanCodec.Codec

set_option autoImplicit false

namespace SparkX

open Rowwise

variable {F : Type}

section

theorem decodeExprs_ok {wires : List (WireExpr F)} {exprs : List (Expr F)} :
    decodeExprs wires = .ok exprs ↔ (∀ expr ∈ exprs, expr.Named) ∧ exprs.mapM encodeExpr = .ok wires := by
  have inverse (wire : WireExpr F) (expr : Expr F) : decodeExpr "expression" wire = .ok expr ↔
      expr.Named ∧ ∃ encoded, encodeExpr expr = .ok encoded ∧ encoded = wire := by
    rw [decodeExpr_ok]
    simp only [exists_eq_right]
  rw [decodeExprs, mapM_inverse inverse]
  simp only [List.forall₂_eq_eq_eq, exists_eq_right]

variable {schema : Schema}

theorem decodeSortExpr_ok {wire : WireSortExpr F} {sort : SortExpr F} :
    decodeSortExpr schema wire = .ok sort ↔
      (sort.expr.Named ∧ ∃ dataType, sort.expr.dataType schema = .ok dataType) ∧
        ∃ encoded, encodeSortExpr sort = .ok encoded ∧ encoded = wire := by
  simp only [decodeSortExpr, encodeSortExpr, bind_ok, lift_ok, decodeExpr_ok]
  constructor
  · rintro ⟨expr, ⟨named, written⟩, dataType, typed, same⟩
    cases same
    exact ⟨⟨named, dataType, typed⟩, _, ⟨_, written, rfl⟩, rfl⟩
  · rintro ⟨⟨named, dataType, typed⟩, _, ⟨expr, written, same⟩, rfl⟩
    cases same
    exact ⟨_, ⟨named, written⟩, dataType, typed, rfl⟩

theorem decodeSortExprs_ok {wires : List (WireSortExpr F)} {exprs : List (SortExpr F)} :
    decodeSortExprs wires schema = .ok exprs ↔ exprs ≠ [] ∧
      (∀ sort ∈ exprs, sort.expr.Named ∧ ∃ dataType, sort.expr.dataType schema = .ok dataType) ∧
        exprs.mapM encodeSortExpr = .ok wires := by
  have list {decoded : List (SortExpr F)} : wires.mapM (decodeSortExpr schema) = .ok decoded ↔
      (∀ sort ∈ decoded, sort.expr.Named ∧ ∃ dataType, sort.expr.dataType schema = .ok dataType) ∧
        decoded.mapM encodeSortExpr = .ok wires := by
    rw [mapM_inverse fun _ _ => decodeSortExpr_ok]
    simp only [List.forall₂_eq_eq_eq, exists_eq_right]
  constructor
  · intro decoded
    obtain ⟨read, parts, decoded⟩ := bind_ok.mp decoded
    obtain ⟨some, same⟩ := check_ok.mp decoded
    cases same
    exact ⟨by simpa using rejectIf_ok.mp some, list.mp parts⟩
  · rintro ⟨some, parts⟩
    refine bind_ok.mpr ⟨exprs, list.mpr parts, check_ok.mpr ⟨rejectIf_ok.mpr ?_, rfl⟩⟩
    simpa using some

variable {name : String}

theorem checkedU32_ok {value : Nat} {word : U32} : checkedU32 name value = .ok word ↔ word.val = value := by
  rw [checkedU32, okOr_ok, Word.tryFrom_eq_some]

theorem checkedU64_ok {value : Nat} {word : U64} : checkedU64 name value = .ok word ↔ word.val = value := by
  rw [checkedU64, okOr_ok, Word.tryFrom_eq_some]

theorem checkedIndices_ok {indices : List Nat} {words : List U32} :
    indices.mapM (checkedU32 name) = .ok words ↔ words.map (·.val) = indices := by
  have flipped : List.Forall₂ (fun index (word : U32) => word.val = index) indices words ↔
      List.Forall₂ (fun (word : U32) index => word.val = index) words indices := ⟨.flip, .flip⟩
  simp only [mapM_ok, checkedU32_ok, flipped, forall₂_eq]
  exact eq_comm

theorem decodeProjection_ok {hasProjection : Bool} {indices : List U32}
    {projection : Option (List Nat)} :
    decodeProjection hasProjection indices = .ok projection ↔ projection.isSome = hasProjection ∧
      (projection.getD []).mapM (checkedU32 "scan projection index") = .ok indices := by
  rw [checkedIndices_ok]
  cases hasProjection <;> cases projection <;> cases indices <;> simp [decodeProjection]

variable {done : Unit}

theorem validateScanSchema_ok {tableName : String} {provided : Schema} {projection : Option (List Nat)} :
    validateScanSchema tableName provided projection schema = .ok done ↔
      (∀ index ∈ projection.getD [], index < provided.fields.length) ∧
        List.Forall₂ Field.matches schema.fields (projectedSchema provided projection).fields := by
  rw [validateScanSchema, check_ok, check_ok, forM_ok, forM_ok, rejectIf_ok, List.forall₂_iff_zip]
  simp only [rejectIf_ok, not_le, not_not, Prod.forall]
  exact and_congr_right fun _ => and_congr_left fun _ => eq_comm

theorem validateJoinKeys_ok {left right : List (Expr F)} {leftSchema rightSchema : Schema} :
    validateJoinKeys left leftSchema right rightSchema = .ok done ↔ left ≠ [] ∧
      List.Forall₂ (fun leftKey rightKey => ∃ dataType, leftKey.dataType leftSchema = .ok dataType ∧
        rightKey.dataType rightSchema = .ok dataType) left right := by
  have key {first second : Expr F} :
      validateJoinKey leftSchema rightSchema (first, second) = .ok () ↔ ∃ dataType,
        first.dataType leftSchema = .ok dataType ∧ second.dataType rightSchema = .ok dataType := by
    simp only [validateJoinKey, bind_ok, rejectIf_ok, not_not]
    constructor
    · rintro ⟨leftType, leftTyped, rightType, rightTyped, rfl⟩
      exact ⟨leftType, leftTyped, rightTyped⟩
    · rintro ⟨dataType, leftTyped, rightTyped⟩
      exact ⟨dataType, leftTyped, dataType, rightTyped, rfl⟩
  rw [validateJoinKeys, check_ok, forM_ok, rejectIf_ok, List.forall₂_iff_zip]
  simp only [Prod.forall, key, not_or, not_not, List.isEmpty_iff, and_assoc, ne_eq]

theorem resolveTable_ok {catalog : Catalog F} {tableName : String} {provider : TableProvider F} :
    resolveTable catalog tableName = .ok provider ↔ catalog.table tableName = .ok provider := by
  rw [resolveTable, Except.mapError_eq_ok]

theorem validateSchema_ok {operator : String} {actual expected : Schema} :
    validateSchema operator actual expected = .ok done ↔ actual = expected := by
  rw [validateSchema, rejectIf_ok, not_not]

theorem checkDepth_ok {depth : Nat} : checkDepth depth = .ok done ↔ depth < maxPlanDepth := by
  rw [checkDepth, rejectIf_ok, not_le]

theorem decodeRequiredSchema_ok {wire : Option WireSchema} {operator : String} :
    decodeRequiredSchema wire operator = .ok schema ↔
      ∃ encoded, encodeSchema schema = .ok encoded ∧ Option.Rel WireSchema.Similar (some encoded) wire := by
  cases wire with
  | none => exact ⟨nofun, fun ⟨_, _, similar⟩ => nomatch similar⟩
  | some wire =>
    rw [decodeRequiredSchema, decodeSchema_ok]
    exact exists_congr fun encoded => and_congr_right fun _ =>
      ⟨.some, fun | .some similar => similar⟩

end

inductive WirePlan.Similar : WirePlan F → WirePlan F → Prop
  | absent : Similar .absent .absent
  | unset : Similar .unset .unset
  | scan {id : OperatorId} {tableName : String} {hasProjection : Bool} {projection : List U32}
      {filters : List (WireExpr F)} {first second : Option WireSchema}
      (schema : Option.Rel WireSchema.Similar first second) :
    Similar (.scan id tableName hasProjection projection filters first)
      (.scan id tableName hasProjection projection filters second)
  | projection {id : OperatorId} {exprs : List (WireExpr F)} {input other : WirePlan F}
      {first second : Option WireSchema} (inputs : Similar input other)
      (schema : Option.Rel WireSchema.Similar first second) :
    Similar (.projection id input exprs first) (.projection id other exprs second)
  | filter {id : OperatorId} {predicate : WireExpr F} {input other : WirePlan F}
      {first second : Option WireSchema} (inputs : Similar input other)
      (schema : Option.Rel WireSchema.Similar first second) :
    Similar (.filter id input predicate first) (.filter id other predicate second)
  | hashAggregate {id : OperatorId} {groupExprs aggregateExprs : List (WireExpr F)}
      {input other : WirePlan F} {first second : Option WireSchema} (inputs : Similar input other)
      (schema : Option.Rel WireSchema.Similar first second) :
    Similar (.hashAggregate id input groupExprs aggregateExprs first)
      (.hashAggregate id other groupExprs aggregateExprs second)
  | sort {id : OperatorId} {exprs : List (WireSortExpr F)} {input other : WirePlan F}
      {first second : Option WireSchema} (inputs : Similar input other)
      (schema : Option.Rel WireSchema.Similar first second) :
    Similar (.sort id input exprs first) (.sort id other exprs second)
  | topK {id : OperatorId} {exprs : List (WireSortExpr F)} {limit : U64} {input other : WirePlan F}
      {first second : Option WireSchema} (inputs : Similar input other)
      (schema : Option.Rel WireSchema.Similar first second) :
    Similar (.topK id input exprs limit first) (.topK id other exprs limit second)
  | limit {id : OperatorId} {limit : U64} {input other : WirePlan F}
      {first second : Option WireSchema} (inputs : Similar input other)
      (schema : Option.Rel WireSchema.Similar first second) :
    Similar (.limit id input limit first) (.limit id other limit second)
  | hashJoin {id : OperatorId} {joinType : Int} {leftOn rightOn : List (WireExpr F)}
      {left otherLeft right otherRight : WirePlan F} {first second : Option WireSchema}
      (lefts : Similar left otherLeft) (rights : Similar right otherRight)
      (schema : Option.Rel WireSchema.Similar first second) :
    Similar (.hashJoin id left right joinType leftOn rightOn first)
      (.hashJoin id otherLeft otherRight joinType leftOn rightOn second)

def PhysicalPlan.Accepted [FloatOps F] (catalog : Catalog F) : PhysicalPlan F → Prop
  | .scan _ tableName provider indices filters schema =>
    Text.isBlank tableName = false ∧ catalog.table tableName = .ok provider ∧
      (∀ index ∈ indices.getD [], index < provider.schema.fields.length) ∧
      List.Forall₂ Field.matches schema.fields (projectedSchema provider.schema indices).fields ∧
      ∀ filter ∈ filters, filter.Named
  | .projection _ input exprs schema =>
    input.Accepted catalog ∧ (∀ expr ∈ exprs, expr.Named) ∧ schemaForExprs exprs input.schema = .ok schema
  | .filter _ input predicate schema =>
    input.Accepted catalog ∧ predicate.Named ∧ predicate.dataType input.schema = .ok .boolean ∧
      schema = input.schema
  | .hashAggregate _ input groupExprs aggregateExprs schema =>
    input.Accepted catalog ∧ (∀ expr ∈ groupExprs ++ aggregateExprs, expr.Named) ∧
      schemaForExprs (groupExprs ++ aggregateExprs) input.schema = .ok schema
  | .sort _ input exprs schema | .topK _ input exprs _ schema =>
    input.Accepted catalog ∧ exprs ≠ [] ∧ (∀ sort ∈ exprs, sort.expr.Named ∧
        ∃ dataType, sort.expr.dataType input.schema = .ok dataType) ∧
      schema = input.schema
  | .limit _ input _ schema => input.Accepted catalog ∧ schema = input.schema
  | .hashJoin _ left right joinType leftOn rightOn schema =>
    left.Accepted catalog ∧ right.Accepted catalog ∧
      (∀ expr ∈ leftOn ++ rightOn, expr.Named) ∧ leftOn ≠ [] ∧
      List.Forall₂ (fun leftKey rightKey => ∃ dataType, leftKey.dataType left.schema = .ok dataType ∧
        rightKey.dataType right.schema = .ok dataType) leftOn rightOn ∧
      schema = joinSchema left.schema right.schema joinType

section

variable [FloatOps F] {catalog : Catalog F}

variable {depth : Nat} {name : String} {wire : WirePlan F} {plan : PhysicalPlan F}

theorem decodePlan_accepted (decoded : decodePlan catalog depth name wire = .ok plan) :
    plan.Accepted catalog ∧ ∃ encoded, encodePlan depth plan = .ok encoded ∧ encoded.Similar wire := by
  induction wire generalizing depth name plan with
  | absent => cases decoded
  | unset =>
    obtain ⟨_, decoded⟩ := check_ok.mp decoded
    cases decoded
  | scan id tableName hasProjection projection filters schema =>
    simp only [decodePlan, bind_ok, lift_ok, rejectIf_eq_ok, resolveTable_ok,
      decodeProjection_ok, decodeRequiredSchema_ok, validateScanSchema_ok, decodeExprs_ok] at decoded
    obtain ⟨_, shallow, _, named, provider, found, indices, ⟨some, words⟩, declared,
      ⟨written, encodes, similar⟩, _, ⟨inside, matching⟩, exprs, ⟨legible, exprWires⟩, same⟩ := decoded
    cases same
    refine ⟨⟨Bool.eq_false_iff.mpr named, found, inside, matching, legible⟩, _, ?_, .scan similar⟩
    simp only [encodePlan, shallow, words, exprWires, encodes, some]
    rfl
  | projection id input exprs schema ih =>
    simp only [decodePlan, bind_ok, lift_ok, decodeRequiredSchema_ok, validateSchema_ok,
      decodeExprs_ok] at decoded
    obtain ⟨_, shallow, child, read, parts, ⟨legible, wires⟩, declared, ⟨written, encodes, similar⟩,
      expected, inferred, _, rfl, same⟩ := decoded
    cases same
    obtain ⟨accepted, inner, innerEncodes, innerSimilar⟩ := ih read
    refine ⟨⟨accepted, legible, inferred⟩, _, ?_, .projection innerSimilar similar⟩
    simp only [encodePlan, shallow, innerEncodes, wires, encodes]
    rfl
  | filter id input predicate schema ih =>
    simp only [decodePlan, bind_ok, lift_ok, decodeRequiredSchema_ok, validateSchema_ok,
      decodeExpr_ok, rejectIf_eq_ok, not_not] at decoded
    obtain ⟨_, shallow, child, read, expr, ⟨legible, wires⟩, dataType, typed, _, rfl, declared,
      ⟨written, encodes, similar⟩, _, rfl, same⟩ := decoded
    cases same
    obtain ⟨accepted, inner, innerEncodes, innerSimilar⟩ := ih read
    refine ⟨⟨accepted, legible, typed, rfl⟩, _, ?_, .filter innerSimilar similar⟩
    simp only [encodePlan, shallow, innerEncodes, wires, encodes]
    rfl
  | hashAggregate id input groupExprs aggregateExprs schema ih =>
    simp only [decodePlan, bind_ok, lift_ok, decodeRequiredSchema_ok, validateSchema_ok,
      decodeExprs_ok] at decoded
    obtain ⟨_, shallow, child, read, groups, ⟨groupsLegible, groupWires⟩, aggregates,
      ⟨aggregatesLegible, aggregateWires⟩, declared, ⟨written, encodes, similar⟩, expected, inferred,
      _, rfl, same⟩ := decoded
    cases same
    obtain ⟨accepted, inner, innerEncodes, innerSimilar⟩ := ih read
    refine ⟨⟨accepted, List.forall_mem_append.mpr ⟨groupsLegible, aggregatesLegible⟩, inferred⟩, _, ?_,
      .hashAggregate innerSimilar similar⟩
    simp only [encodePlan, shallow, innerEncodes, groupWires, aggregateWires, encodes]
    rfl
  | sort id input exprs schema ih =>
    simp only [decodePlan, bind_ok, lift_ok, decodeRequiredSchema_ok, validateSchema_ok,
      decodeSortExprs_ok] at decoded
    obtain ⟨_, shallow, child, read, sorts, ⟨some, typed, wires⟩, declared,
      ⟨written, encodes, similar⟩, _, rfl, same⟩ := decoded
    cases same
    obtain ⟨accepted, inner, innerEncodes, innerSimilar⟩ := ih read
    refine ⟨⟨accepted, some, typed, rfl⟩, _, ?_, .sort innerSimilar similar⟩
    simp only [encodePlan, shallow, innerEncodes, wires, encodes]
    rfl
  | topK id input exprs limit schema ih =>
    simp only [decodePlan, bind_ok, lift_ok, decodeRequiredSchema_ok, validateSchema_ok,
      decodeSortExprs_ok] at decoded
    obtain ⟨_, shallow, child, read, sorts, ⟨some, typed, wires⟩, declared,
      ⟨written, encodes, similar⟩, _, rfl, same⟩ := decoded
    cases same
    obtain ⟨accepted, inner, innerEncodes, innerSimilar⟩ := ih read
    refine ⟨⟨accepted, some, typed, rfl⟩, _, ?_, .topK innerSimilar similar⟩
    simp only [encodePlan, shallow, innerEncodes, wires, encodes, checkedU64_ok.mpr rfl]
    rfl
  | limit id input limit schema ih =>
    simp only [decodePlan, bind_ok, lift_ok, decodeRequiredSchema_ok, validateSchema_ok] at decoded
    obtain ⟨_, shallow, child, read, declared, ⟨written, encodes, similar⟩, _, rfl, same⟩ := decoded
    cases same
    obtain ⟨accepted, inner, innerEncodes, innerSimilar⟩ := ih read
    refine ⟨⟨accepted, rfl⟩, _, ?_, .limit innerSimilar similar⟩
    simp only [encodePlan, shallow, innerEncodes, encodes, checkedU64_ok.mpr rfl]
    rfl
  | hashJoin id left right joinType leftOn rightOn schema leftIh rightIh =>
    simp only [decodePlan, bind_ok, lift_ok, decodeRequiredSchema_ok, validateSchema_ok,
      decodeExprs_ok, decodeJoinType_ok, validateJoinKeys_ok] at decoded
    obtain ⟨_, shallow, first, leftRead, second, rightRead, kind, rfl, leftKeys,
      ⟨leftLegible, leftWires⟩, rightKeys, ⟨rightLegible, rightWires⟩, _, ⟨some, typed⟩, declared,
      ⟨written, encodes, similar⟩, _, rfl, same⟩ := decoded
    cases same
    obtain ⟨leftAccepted, leftInner, leftEncodes, leftSimilar⟩ := leftIh leftRead
    obtain ⟨rightAccepted, rightInner, rightEncodes, rightSimilar⟩ := rightIh rightRead
    refine ⟨⟨leftAccepted, rightAccepted, List.forall_mem_append.mpr ⟨leftLegible, rightLegible⟩, some,
      typed, rfl⟩, _, ?_, .hashJoin leftSimilar rightSimilar similar⟩
    simp only [encodePlan, shallow, leftEncodes, rightEncodes, leftWires, rightWires, encodes]
    rfl

theorem accepted_decodePlan {encoded : WirePlan F} (accepted : plan.Accepted catalog)
    (encodes : encodePlan depth plan = .ok encoded) (similar : encoded.Similar wire) :
    decodePlan catalog depth name wire = .ok plan := by
  induction plan generalizing depth name wire encoded with
  | scan id tableName provider projection filters schema =>
    simp only [encodePlan, bind_ok] at encodes
    obtain ⟨_, shallow, indices, words, exprs, exprWires, written, declared, same⟩ := encodes
    cases same
    obtain ⟨named, found, inside, matching, legible⟩ := accepted
    cases similar with
    | scan schemas =>
      simp only [decodePlan, bind_ok, lift_ok, rejectIf_eq_ok, resolveTable_ok,
        decodeProjection_ok, decodeRequiredSchema_ok, validateScanSchema_ok, decodeExprs_ok]
      exact ⟨(), shallow, (), Bool.eq_false_iff.mp named, provider, found, projection, ⟨rfl, words⟩,
        schema, ⟨written, declared, schemas⟩, (), ⟨inside, matching⟩, filters, ⟨legible, exprWires⟩, rfl⟩
  | projection id input exprs schema ih =>
    simp only [encodePlan, bind_ok] at encodes
    obtain ⟨_, shallow, child, childEncodes, wires, exprWires, written, declared, same⟩ := encodes
    cases same
    obtain ⟨inputAccepted, legible, inferred⟩ := accepted
    cases similar with
    | projection inputs schemas =>
      simp only [decodePlan, bind_ok, lift_ok, decodeRequiredSchema_ok, validateSchema_ok, decodeExprs_ok]
      exact ⟨(), shallow, input, ih inputAccepted childEncodes inputs, exprs, ⟨legible, exprWires⟩,
        schema, ⟨written, declared, schemas⟩, schema, inferred, (), rfl, rfl⟩
  | filter id input predicate schema ih =>
    simp only [encodePlan, bind_ok] at encodes
    obtain ⟨_, shallow, child, childEncodes, wires, exprWires, written, declared, same⟩ := encodes
    cases same
    obtain ⟨inputAccepted, legible, boolean, rfl⟩ := accepted
    cases similar with
    | filter inputs schemas =>
      simp only [decodePlan, bind_ok, lift_ok, decodeRequiredSchema_ok, validateSchema_ok,
        decodeExpr_ok, rejectIf_eq_ok, not_not]
      exact ⟨(), shallow, input, ih inputAccepted childEncodes inputs, predicate,
        ⟨legible, exprWires⟩, .boolean, boolean, (), rfl, _, ⟨written, declared, schemas⟩, (), rfl, rfl⟩
  | hashAggregate id input groupExprs aggregateExprs schema ih =>
    simp only [encodePlan, bind_ok] at encodes
    obtain ⟨_, shallow, child, childEncodes, groups, groupWires, aggregates, aggregateWires, written,
      declared, same⟩ := encodes
    cases same
    obtain ⟨inputAccepted, legible, inferred⟩ := accepted
    obtain ⟨groupsLegible, aggregatesLegible⟩ := List.forall_mem_append.mp legible
    cases similar with
    | hashAggregate inputs schemas =>
      simp only [decodePlan, bind_ok, lift_ok, decodeRequiredSchema_ok, validateSchema_ok, decodeExprs_ok]
      exact ⟨(), shallow, input, ih inputAccepted childEncodes inputs, groupExprs,
        ⟨groupsLegible, groupWires⟩, aggregateExprs, ⟨aggregatesLegible, aggregateWires⟩, schema,
        ⟨written, declared, schemas⟩, schema, inferred, (), rfl, rfl⟩
  | sort id input exprs schema ih =>
    simp only [encodePlan, bind_ok] at encodes
    obtain ⟨_, shallow, child, childEncodes, wires, exprWires, written, declared, same⟩ := encodes
    cases same
    obtain ⟨inputAccepted, some, typed, rfl⟩ := accepted
    cases similar with
    | sort inputs schemas =>
      simp only [decodePlan, bind_ok, lift_ok, decodeRequiredSchema_ok, validateSchema_ok,
        decodeSortExprs_ok]
      exact ⟨(), shallow, input, ih inputAccepted childEncodes inputs, exprs, ⟨some, typed, exprWires⟩,
        _, ⟨written, declared, schemas⟩, (), rfl, rfl⟩
  | topK id input exprs limit schema ih =>
    simp only [encodePlan, bind_ok, checkedU64_ok] at encodes
    obtain ⟨_, shallow, child, childEncodes, wires, exprWires, word, rfl, written, declared, same⟩ :=
      encodes
    cases same
    obtain ⟨inputAccepted, some, typed, rfl⟩ := accepted
    cases similar with
    | topK inputs schemas =>
      simp only [decodePlan, bind_ok, lift_ok, decodeRequiredSchema_ok, validateSchema_ok,
        decodeSortExprs_ok]
      exact ⟨(), shallow, input, ih inputAccepted childEncodes inputs, exprs, ⟨some, typed, exprWires⟩,
        _, ⟨written, declared, schemas⟩, (), rfl, rfl⟩
  | limit id input limit schema ih =>
    simp only [encodePlan, bind_ok, checkedU64_ok] at encodes
    obtain ⟨_, shallow, child, childEncodes, word, rfl, written, declared, same⟩ := encodes
    cases same
    obtain ⟨inputAccepted, rfl⟩ := accepted
    cases similar with
    | limit inputs schemas =>
      simp only [decodePlan, bind_ok, lift_ok, decodeRequiredSchema_ok, validateSchema_ok]
      exact ⟨(), shallow, input, ih inputAccepted childEncodes inputs, _,
        ⟨written, declared, schemas⟩, (), rfl, rfl⟩
  | hashJoin id left right joinType leftOn rightOn schema leftIh rightIh =>
    simp only [encodePlan, bind_ok] at encodes
    obtain ⟨_, shallow, leftChild, leftEncodes, rightChild, rightEncodes, leftKeys, leftWires,
      rightKeys, rightWires, written, declared, same⟩ := encodes
    cases same
    obtain ⟨leftAccepted, rightAccepted, legible, some, typed, rfl⟩ := accepted
    obtain ⟨leftLegible, rightLegible⟩ := List.forall_mem_append.mp legible
    cases similar with
    | hashJoin lefts rights schemas =>
      simp only [decodePlan, bind_ok, lift_ok, decodeRequiredSchema_ok, validateSchema_ok,
        decodeExprs_ok, decodeJoinType_ok, validateJoinKeys_ok]
      exact ⟨(), shallow, left, leftIh leftAccepted leftEncodes lefts, right,
        rightIh rightAccepted rightEncodes rights, joinType, rfl, leftOn, ⟨leftLegible, leftWires⟩,
        rightOn, ⟨rightLegible, rightWires⟩, (), ⟨some, typed⟩, _, ⟨written, declared, schemas⟩, (), rfl,
        rfl⟩

theorem decodePlan_ok : decodePlan catalog depth name wire = .ok plan ↔ plan.Accepted catalog ∧
      ∃ encoded, encodePlan depth plan = .ok encoded ∧ encoded.Similar wire :=
  ⟨decodePlan_accepted, fun ⟨accepted, _, encodes, similar⟩ =>
    accepted_decodePlan accepted encodes similar⟩

end

end SparkX
