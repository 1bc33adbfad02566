import SparkX.Query.Constants
import SparkX.Query.Pushdown
import SparkX.Query.Retyped

set_option autoImplicit false

namespace SparkX

open Rowwise

variable {F : Type} [ArrowKernels F]

-- What Arrow's documentation says about casts of scalars.
structure ArrowKernels.Recasts (F : Type) [ArrowKernels F] : Prop extends ArrowKernels.Restores F,
    ArrowKernels.Supports F where
  nulls : ArrowKernels.CastsNull F

namespace Expr

variable {expr result : Expr F} {schema other : Schema} {value : Value F} {dataType computed : DataType}

section

variable (recasts : ArrowKernels.Recasts F)

include recasts

theorem simplify_typedLiteral (castable : (typedLiteral value.scalar dataType).typeIn { fields := [] } = some computed)
    (typed : value.hasType dataType = true) (named : value.isNamed = true) (stored : value.Stored) :
    (typedLiteral value.scalar dataType).simplify schema = .ok (typedLiteral value.scalar dataType) := by
  have literal : (Expr.literal value.scalar).simplify schema = .ok (.literal value.scalar) := by
    refine simplifyNode_ok.mpr ⟨_, rfl, .inl ⟨⟨rfl, rfl⟩, _, _, rfl, rfl, ?_⟩⟩
    cases value.scalar <;> exact ⟨rfl, rfl⟩
  unfold typedLiteral at castable ⊢
  split at castable
  next same =>
    rw [if_pos same]
    exact literal
  next wider =>
    rw [if_neg wider]
    obtain ⟨_, same, castable, _⟩ := typeIn_cast.mp castable
    cases same
    refine bind_ok.mpr ⟨_, literal, simplifyNode_ok.mpr ⟨_, rfl, .inl ⟨⟨rfl, rfl⟩, dataType, value, ?_, ?_, named, ?_⟩⟩⟩
    · exact typeIn_cast.mpr ⟨_, rfl, castable, rfl⟩
    · exact congrArg some (recasts.restore dataType value typed named stored)
    · exact (if_neg wider).symm

theorem simplify_evaluated (done : expr.simplify schema = .ok (typedLiteral value.scalar dataType))
    (computed : (typedLiteral value.scalar dataType).typeIn { fields := [] } = some dataType) :
    (typedLiteral value.scalar dataType).simplify other = .ok (typedLiteral value.scalar dataType) := by
  have reflects := (simplify_reflects recasts.toRestores done).1
  have flat := typedLiteral_flat value.scalar dataType
  cases known : expr.constant with
  | some found =>
    obtain ⟨constantType, constant⟩ := known ▸ reflects
    rw [← flat, constant.literal] at computed ⊢
    exact simplify_typedLiteral recasts computed constant.typed constant.named constant.stored
  | none =>
    rw [known] at reflects
    have folds : (typedLiteral value.scalar dataType).folds := by
      unfold typedLiteral
      split <;> exact ⟨rfl, rfl⟩
    exact absurd folds (Varying.not_folds reflects computed)

-- A node that is evaluated leaves a literal, and the literal is simplified like any other.
theorem again_or_rewritten {node : Expr F} (done : expr.simplify schema = .ok result)
    (made : node.simplifyNode schema = .ok result)
    (castable : ∀ declared computed, node.dataType schema = .ok declared → node.folds →
      node.typeIn { fields := [] } = some computed → computed.isNamed = false →
        ArrowKernels.canCast F .null computed = true) :
    result.simplify other = .ok result ∨
      ∃ dataType, node.dataType schema = .ok dataType ∧ ¬node.folds ∧ node.rewrite dataType = result := by
  obtain ⟨declared, inferred, ⟨folds, _, _, computed, found, named, rfl⟩ | ⟨varies, rfl⟩⟩ := simplifyNode_ok.mp made
  next =>
    have admitted : ({ fields := [] } : Schema).admits ([] : List (Value F)) := .nil
    exact .inl (simplify_evaluated recasts done (typeIn_typedLiteral recasts.toSupports
      (hasType_valueIn admitted computed found) named (castable _ _ inferred folds computed)))
  next => exact .inr ⟨declared, inferred, varies, rfl⟩

omit recasts in
theorem simplifyNode_kept (typed : expr.dataType schema = .ok dataType) (varies : ¬expr.folds)
    (stays : expr.rewrite dataType = expr)
    (same : ∀ name ∈ expr.references, other.findField name = schema.findField name) :
    expr.simplifyNode other = .ok expr := by
  refine simplifyNode_ok.mpr ⟨dataType, ?_, .inr ⟨varies, stays.symm⟩⟩
  rwa [dataType_congr fun name found => same name (typedColumns_subset found)]

theorem cast_castable {inner simple : Expr F} (inside : inner.simplify schema = .ok simple) {target : DataType}
    (folds : (Expr.cast simple target).folds) (typed : (Expr.cast simple target).typeIn { fields := [] } = some computed)
    (unnamed : computed.isNamed = false) : ArrowKernels.canCast F .null computed = true := by
  obtain ⟨source, sourceTyped, castable, rfl⟩ := typeIn_cast.mp typed
  by_cases same : source = computed
  · subst same
    have reflects := (simplify_reflects recasts.toRestores inside).1
    cases known : inner.constant with
    | some value =>
      obtain ⟨_, constant⟩ := known ▸ reflects
      exact constant.castable sourceTyped unnamed
    | none =>
      rw [known] at reflects
      exact absurd (show simple.folds from folds) (Varying.not_folds reflects sourceTyped)
  · exact recasts.nulls source computed same castable

omit recasts in
theorem binary_named {left right : Expr F} {op : Operator} {declared : DataType}
    (inferred : (Expr.binary left op right).dataType schema = .ok declared) (folds : (Expr.binary left op right).folds)
    (typed : (Expr.binary left op right).typeIn { fields := [] } = some computed) : computed.isNamed = true := by
  obtain ⟨_, _, _, _, expected⟩ := dataType_binary.mp inferred
  rw [(meaning_of_no_columns folds.1 _ schema).1] at typed
  have widens := typeIn_widens schema.declares_self typed inferred
  have named := DataType.isNamed_iff.mp (Operator.operandType_isNamed expected)
  exact DataType.isNamed_iff.mpr fun name other => named name (widens.unnamed.mp other)

theorem simplify_again (done : expr.simplify schema = .ok result)
    (same : ∀ name ∈ result.references, other.findField name = schema.findField name) :
    result.simplify other = .ok result := by
  induction expr generalizing result with
  | column name =>
    have open_ : ¬(Expr.column name : Expr F).folds := fun folds => Finset.singleton_ne_empty _ folds.1
    rcases again_or_rewritten recasts done done (fun _ _ _ folds => absurd folds open_) with
      again | ⟨outputType, typed, varies, rfl⟩
    · exact again
    · exact simplifyNode_kept typed varies rfl same
  | literal value =>
    rcases again_or_rewritten recasts done done (by
      rintro _ _ _ _ ⟨⟩ unnamed
      cases value <;> cases unnamed) with again | ⟨outputType, typed, varies, rfl⟩
    · exact again
    · exact simplifyNode_kept typed varies rfl same
  | isNull inner _ ih =>
    obtain ⟨simple, inside, made⟩ := bind_ok.mp done
    rcases again_or_rewritten recasts done made (by
      intro _ _ _ _ typed unnamed
      obtain ⟨_, _, rfl⟩ := Option.map_eq_some_iff.mp typed
      cases unnamed) with again | ⟨outputType, typed, varies, rfl⟩
    · exact again
    · exact bind_ok.mpr ⟨simple, ih inside same, simplifyNode_kept typed varies rfl same⟩
  | cast inner _ ih =>
    obtain ⟨simple, inside, made⟩ := bind_ok.mp done
    rcases again_or_rewritten recasts done made (fun _ _ _ => cast_castable recasts inside) with
      again | ⟨outputType, typed, varies, rfl⟩
    · exact again
    · exact bind_ok.mpr ⟨simple, ih inside same, simplifyNode_kept typed varies rfl same⟩
  | aliased inner _ ih | aggregate _ inner _ ih =>
    obtain ⟨simple, inside, made⟩ := bind_ok.mp done
    cases made
    exact bind_ok.mpr ⟨simple, ih inside same, rfl⟩
  | wildcard =>
    cases done
    rfl
  | binary left op right leftIh rightIh =>
    obtain ⟨simpleLeft, leftInside, rest⟩ := bind_ok.mp done
    obtain ⟨simpleRight, rightInside, made⟩ := bind_ok.mp rest
    rcases again_or_rewritten recasts done made (fun _ _ inferred folds typed unnamed =>
      absurd (binary_named inferred folds typed) (by simp [unnamed])) with
      again | ⟨outputType, typed, varies, rewritten⟩
    · exact again
    have rewrites : Rewrites op left.constant right.constant simpleLeft simpleRight outputType result := by
      rw [← rewritten]
      exact simplifyBinary_rewrites (simplify_reflects recasts.toRestores leftInside).1
        (simplify_reflects recasts.toRestores rightInside).1 outputType
    cases rewrites with
    | null _ _ =>
      obtain ⟨_, _, _, _, expected⟩ := dataType_binary.mp typed
      have castable := @typeIn_typedLiteral F _ { fields := [] } .null outputType recasts.toSupports
        (Value.hasType_null _) rfl fun unnamed => nomatch unnamed.symm.trans (Operator.operandType_isNamed expected)
      exact @simplify_typedLiteral F _ other .null outputType _ recasts castable (Value.hasType_null _) rfl trivial
    | right _ _ => exact rightIh rightInside same
    | left _ _ _ => exact leftIh leftInside same
    | decided _ _ _ _ =>
      exact @simplify_typedLiteral F _ other (.boolean (op == .or)) .boolean _ recasts rfl rfl rfl trivial
    | kept _ _ =>
      have parts := List.forall_mem_append.mp same
      exact bind_ok.mpr ⟨simpleLeft, leftIh leftInside parts.1, bind_ok.mpr ⟨simpleRight,
        rightIh rightInside parts.2, simplifyNode_kept typed varies rewritten same⟩⟩

end

theorem simplify_resolves (done : expr.simplify schema = .ok result) :
    ∀ name ∈ expr.references, ∃ field, schema.findField name = .ok field := by
  induction expr generalizing result with
  | column name =>
    obtain ⟨_, typed, _⟩ := simplifyNode_ok.mp done
    obtain ⟨field, found, _⟩ := map_eq_ok.mp typed
    simpa [references] using ⟨field, found⟩
  | literal | wildcard => simp [references]
  | isNull _ _ ih | cast _ _ ih | aliased _ _ ih | aggregate _ _ _ ih =>
    obtain ⟨_, inside, _⟩ := bind_ok.mp done
    exact ih inside
  | binary left op right leftIh rightIh =>
    obtain ⟨_, leftInside, rest⟩ := bind_ok.mp done
    obtain ⟨_, rightInside, _⟩ := bind_ok.mp rest
    exact List.forall_mem_append.mpr ⟨leftIh leftInside, rightIh rightInside⟩

end Expr

namespace Schema

variable {schema reduced : Schema} {names : List String}

theorem Narrows.findField_eq (narrows : schema.Narrows reduced names) {name : String}
    (unshadowed : ¬schema.Shadowed name) (listed : unqualified name ∈ names) {field : Field}
    (found : schema.findField name = .ok field) : reduced.findField name = .ok field := by
  obtain ⟨position, here⟩ := List.mem_iff_getElem?.mp listed
  obtain ⟨there, again⟩ := narrows.resolves unshadowed found here
  exact findField_ok.mpr ⟨position, again, there⟩

theorem Narrows.again (narrows : schema.Narrows reduced names) : reduced.Narrows reduced names := by
  refine ⟨narrows.distinct, narrows.plain, forall₂_imp_mem (fun name field listed found => ?_) narrows.found⟩
  have plain := narrows.plain name listed
  refine narrows.findField_eq (fun shadowed => ?_) (by rwa [unqualified_eq_self plain]) found
  exact Bool.false_ne_true (plain.symm.trans shadowed.1)

end Schema

namespace LogicalPlan

variable {input plan result : LogicalPlan F} {exprs filters : List (Expr F)} {schema declared : Schema}
  {table : String} {columns : Option (List String)} {predicate : Expr F}

def Settled (schema : Schema) (exprs : List (Expr F)) : Prop := ∀ expr ∈ exprs, expr.simplify schema = .ok expr

theorem mapM_settled : exprs.mapM (·.simplify schema) = .ok exprs ↔ Settled schema exprs := by
  rw [mapM_ok, List.forall₂_same]
  rfl

theorem settled_of_mapM (recasts : ArrowKernels.Recasts F) {simple : List (Expr F)}
    (mapped : exprs.mapM (·.simplify schema) = .ok simple) : Settled schema simple := by
  intro expr member
  obtain ⟨_, _, done⟩ := forall₂_mem (mapM_ok.mp mapped) member
  exact Expr.simplify_again recasts done fun _ _ => rfl

theorem Settled.narrows (recasts : ArrowKernels.Recasts F) {reduced : Schema} {names : List String}
    (settled : Settled schema exprs) (narrows : schema.Narrows reduced names)
    (unshadowed : ∀ expr ∈ exprs, ∀ name ∈ expr.references, ¬schema.Shadowed name)
    (listed : ∀ expr ∈ exprs, ∀ name ∈ expr.references, unqualified name ∈ names) : Settled reduced exprs := by
  intro expr member
  refine Expr.simplify_again recasts (settled expr member) fun name used => ?_
  obtain ⟨field, found⟩ := Expr.simplify_resolves (settled expr member) name used
  rw [found, narrows.findField_eq (unshadowed expr member name used) (listed expr member name used) found]

theorem applyRules_ok : applyRules plan = .ok result ↔ ∃ simple, simplifyExpressions plan = .ok simple ∧
    ∃ filtered, pushFilterIntoScan simple = .ok filtered ∧
    ∃ pushed, pushProjectionIntoScan filtered = .ok pushed ∧ eliminateIdentityProjection pushed = .ok result := by
  simp only [applyRules, bind_ok]

def isInert : LogicalPlan F → Bool
  | .projection _ _ _ | .filter _ _ _ => false
  | _ => true

theorem applyRules_inert (simple : simplifyExpressions plan = .ok result) (inert : result.isInert = true) :
    applyRules plan = .ok result := by
  cases result with
  | projection | filter => cases inert
  | _ => exact applyRules_ok.mpr ⟨_, simple, _, rfl, _, rfl, rfl⟩

theorem optimal_scan (settled : Settled schema filters) :
    optimize (.scan table columns filters schema) = .ok (.scan table columns filters schema) :=
  applyRules_inert (bind_ok.mpr ⟨_, mapM_settled.mpr settled, rfl⟩) rfl

theorem optimize_scan (done : optimize (.scan table columns filters schema) = .ok result) :
    ∃ simple, filters.mapM (·.simplify schema) = .ok simple ∧ result = .scan table columns simple schema := by
  obtain ⟨_, simple, _⟩ := bind_ok.mp done
  obtain ⟨simplified, mapped, made⟩ := bind_ok.mp simple
  cases made
  exact ⟨simplified, mapped, Except.ok.inj (done.symm.trans (applyRules_inert simple rfl))⟩

theorem settled_of_optimal (optimal : optimize (.scan table columns filters schema) =
    .ok (.scan table columns filters schema)) : Settled schema filters := by
  obtain ⟨simple, mapped, same⟩ := optimize_scan optimal
  cases same
  exact mapM_settled.mp mapped

theorem optimal_filter (recasts : ArrowKernels.Recasts F) (below : input.optimize = .ok input)
    (made : ofFilter input predicate = .ok plan) (rules : applyRules plan = .ok result) :
    result.optimize = .ok result := by
  obtain ⟨_, rfl⟩ := ofFilter_ok.mp made
  obtain ⟨_, simple, _, filtered, _, same, same'⟩ := applyRules_ok.mp rules
  obtain ⟨predicate', done, remade⟩ := bind_ok.mp simple
  obtain ⟨typed, rfl⟩ := ofFilter_ok.mp remade
  have again := Expr.simplify_again recasts done fun _ _ => rfl
  by_cases scans : ∃ table columns filters schema, input = .scan table columns filters schema
  next =>
    obtain ⟨table, columns, filters, schema, rfl⟩ := scans
    cases filtered
    cases same
    cases same'
    exact optimal_scan (List.forall_mem_append.mpr ⟨settled_of_optimal below, List.forall_mem_singleton.mpr again⟩)
  next =>
    have other (predicate : Expr F) (declared : Schema) :
        pushFilterIntoScan (.filter input predicate declared) = ofFilter input predicate := by
      cases input with
      | scan table columns filters schema => exact absurd ⟨_, _, _, _, rfl⟩ scans
      | _ => rfl
    rw [other, remade] at filtered
    cases filtered
    cases same
    cases same'
    exact bind_ok.mpr ⟨_, below, bind_ok.mpr ⟨_, remade, applyRules_ok.mpr
      ⟨_, bind_ok.mpr ⟨_, again, remade⟩, _, (other _ _).trans remade, _, rfl, rfl⟩⟩⟩

omit [ArrowKernels F] in
theorem expandProjection_again (exprs : List (Expr F)) (schema other : Schema) :
    expandProjection (expandProjection exprs schema) other = expandProjection exprs schema := by
  unfold expandProjection
  rw [List.flatMap_assoc]
  refine List.flatMap_congr fun expr _ => ?_
  cases expr with
  | wildcard =>
    rw [List.flatMap_map]
    exact List.map_eq_flatMap.symm
  | _ => rfl

theorem Settled.expandProjection (settled : Settled schema exprs) {fields : List Field}
    (read : (SparkX.expandProjection exprs schema).mapM (·.field schema) = .ok fields) :
    Settled schema (SparkX.expandProjection exprs schema) := by
  intro expr member
  obtain ⟨source, inside, here⟩ := List.mem_flatMap.mp member
  cases source with
  | wildcard =>
    obtain ⟨column, _, rfl⟩ := List.mem_map.mp here
    obtain ⟨_, _, made⟩ := forall₂_item (mapM_ok.mp read) member
    obtain ⟨dataType, typed, _⟩ := Expr.field_ok.mp made
    exact Expr.simplifyNode_kept typed (fun folds => Finset.singleton_ne_empty _ folds.1) rfl fun _ _ => rfl
  | _ =>
    obtain rfl := List.mem_singleton.mp here
    exact settled _ inside

-- The names that `push_projection_into_scan` looks up in the schema of a scan: none of them is the
-- name of a field that the lookup of its last part passes by.
def Plain (input : LogicalPlan F) (exprs : List (Expr F)) : Prop :=
  ∀ table columns filters schema, input = .scan table columns filters schema →
    ∀ expr ∈ exprs ++ filters, ∀ name ∈ expr.references, ¬schema.Shadowed name

theorem push_again (recasts : ArrowKernels.Recasts F) (below : input.optimize = .ok input)
    (settled : Settled input.schema exprs) (flat : ∀ schema, expandProjection exprs schema = exprs)
    (plain : input.Plain exprs)
    (pushed : pushProjectionIntoScan (.projection input exprs declared) = .ok plan) :
    ∃ base declared, plan = .projection base exprs declared ∧ ofProject base exprs = .ok plan ∧
      base.optimize = .ok base ∧ Settled base.schema exprs ∧ pushProjectionIntoScan plan = .ok plan := by
  have shape {base : LogicalPlan F} (made : ofProject base exprs = .ok plan) :
      ∃ declared, plan = .projection base exprs declared := by
    obtain ⟨fields, _, rfl⟩ := ofProject_ok.mp made
    exact ⟨_, by rw [flat]⟩
  by_cases scans : ∃ table columns filters schema, input = .scan table columns filters schema
  next =>
    obtain ⟨table, columns, filters, schema, rfl⟩ := scans
    rcases pushProjection_ok.mp pushed with ⟨none, made⟩ | ⟨some, fields, narrows, made⟩
    next =>
      obtain ⟨declared, rfl⟩ := shape made
      exact ⟨_, _, rfl, made, below, settled, pushProjection_ok.mpr (.inl ⟨none, made⟩)⟩
    next =>
      obtain ⟨declared, rfl⟩ := shape made
      obtain ⟨plainExprs, plainFilters⟩ := List.forall_mem_append.mp (plain table columns filters schema rfl)
      have listed : ∀ expr ∈ exprs ++ filters, ∀ name ∈ expr.references,
          unqualified name ∈ (requiredColumns (exprs ++ filters)).sort (· ≤ ·) := fun expr member name used =>
        (Finset.mem_sort _).mpr (mem_requiredColumns.mpr ⟨expr, member, name, used, rfl⟩)
      obtain ⟨ofExprs, ofFilters⟩ := List.forall_mem_append.mp listed
      exact ⟨_, _, rfl, made,
        optimal_scan ((settled_of_optimal below).narrows recasts narrows plainFilters ofFilters),
        settled.narrows recasts narrows plainExprs ofExprs,
        pushProjection_ok.mpr (.inr ⟨some, fields, narrows.again, made⟩)⟩
  next =>
    have other (exprs : List (Expr F)) (declared : Schema) :
        pushProjectionIntoScan (.projection input exprs declared) = ofProject input exprs := by
      cases input with
      | scan table columns filters schema => exact absurd ⟨_, _, _, _, rfl⟩ scans
      | _ => rfl
    rw [other] at pushed
    obtain ⟨declared, rfl⟩ := shape pushed
    exact ⟨_, _, rfl, pushed, below, settled, (other _ _).trans pushed⟩

theorem optimal_projection (recasts : ArrowKernels.Recasts F) (below : input.optimize = .ok input)
    (plain : ∀ simple, (expandProjection exprs input.schema).mapM (·.simplify input.schema) = .ok simple →
      input.Plain (expandProjection simple input.schema))
    (made : ofProject input exprs = .ok plan) (rules : applyRules plan = .ok result) :
    result.optimize = .ok result := by
  obtain ⟨_, _, rfl⟩ := ofProject_ok.mp made
  obtain ⟨_, simple, _, same, _, pushed, eliminated⟩ := applyRules_ok.mp rules
  obtain ⟨simplified, mapped, remade⟩ := bind_ok.mp simple
  obtain ⟨fields, read, rfl⟩ := ofProject_ok.mp remade
  cases same
  have settled := (settled_of_mapM recasts mapped).expandProjection read
  have flat := expandProjection_again simplified input.schema
  obtain ⟨base, declared, rfl, made, optimal, settled, again⟩ :=
    push_again recasts below settled flat (plain simplified mapped) pushed
  by_cases identity : isIdentity (expandProjection simplified input.schema) base.schema = true
  next =>
    obtain rfl := Except.ok.inj ((if_pos identity).symm.trans eliminated)
    exact optimal
  next =>
    have kept := (if_neg identity).symm.trans eliminated
    rw [made] at kept
    cases kept
    exact bind_ok.mpr ⟨_, optimal, bind_ok.mpr ⟨_, made, applyRules_ok.mpr
      ⟨_, bind_ok.mpr ⟨_, mapM_settled.mpr settled, made⟩, _, rfl, _, again, (if_neg identity).trans made⟩⟩⟩

-- Every projection that comes to stand over a scan is plain once it has been simplified.
def Unmixed : LogicalPlan F → Prop
  | .scan _ _ _ _ => True
  | .projection input exprs _ => input.Unmixed ∧ ∀ base simple, input.optimize = .ok base →
    (expandProjection exprs base.schema).mapM (·.simplify base.schema) = .ok simple →
      base.Plain (expandProjection simple base.schema)
  | .filter input _ _ | .aggregate input _ _ _ | .sort input _ _ | .limit input _ _ => input.Unmixed
  | .join left right _ _ _ _ => left.Unmixed ∧ right.Unmixed

def flagScan (filters : List (Expr ℚ)) : LogicalPlan ℚ :=
  .scan "t" none filters { fields := [⟨"t.a", .boolean, true, .empty⟩, ⟨"a", .int64, true, .empty⟩] }

def numberScan (filters : List (Expr ℚ)) : LogicalPlan ℚ :=
  .scan "t" (some ["a"]) filters { fields := [⟨"a", .int64, true, .empty⟩] }

-- The lookup of the last part of `t.a` leaves the column `a` only.
theorem optimize_number {input : LogicalPlan ℚ} {filters : List (Expr ℚ)} {declared : Schema}
    (below : input.optimize = .ok (flagScan filters))
    (required : requiredColumns ([.column "a"] ++ filters) = {"a"}) :
    optimize (.projection input [.column "a"] declared) = .ok (numberScan filters) := by
  have pushed : pushProjectionIntoScan (.projection (flagScan filters) [.column "a"] (numberScan filters).schema) =
      .ok (.projection (numberScan filters) [.column "a"] (numberScan filters).schema) := by
    refine pushProjection_ok.mpr (.inr ⟨?_, [⟨"a", .int64, true, .empty⟩], ?_, rfl⟩)
    · rw [required]
      exact Finset.singleton_ne_empty _
    · rw [required, Finset.sort_singleton]
      exact ⟨List.nodup_singleton _, by decide, .cons rfl .nil⟩
  exact bind_ok.mpr ⟨_, below, bind_ok.mpr ⟨_, rfl, applyRules_ok.mpr ⟨_, rfl, _, rfl, _, pushed, rfl⟩⟩⟩

def notNull : Expr ℚ := .isNull (.column "a") true

end LogicalPlan

end SparkX
