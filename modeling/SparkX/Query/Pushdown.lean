import SparkX.Query.Optimizer
import SparkX.Shared.Rowwise

set_option autoImplicit false

namespace SparkX

open Rowwise

variable {F : Type}

namespace Schema

variable {schema reduced : Schema} {name : String} {field : Field} {names : List String} {index position : Nat}

theorem findField_ok : schema.findField name = .ok field ↔
    ∃ index, schema.resolveFieldIndex name = .ok index ∧ schema.fields[index]? = some field := by
  simp only [findField, bind_ok, lift_ok, expect_ok]

theorem resolve_lastPart (resolved : schema.resolveFieldIndex name = .ok index)
    (present : schema.fields[index]? = some field) : unqualified field.name = unqualified name := by
  have here {named : String → Bool} (only : schema.positions named = [index]) : named field.name = true := by
    obtain ⟨found, there, same⟩ := mem_positions.mp (only ▸ List.mem_singleton_self index)
    exact Option.some.inj (there.symm.trans present) ▸ same
  rcases resolveFieldIndex_ok.mp resolved with exact' | ⟨_, _, suffix⟩
  · rw [of_decide_eq_true (here exact')]
  · exact of_decide_eq_true (here suffix)

-- The name is that of a field, and its last part is the name of another one.
def Shadowed (schema : Schema) (name : String) : Prop :=
  isQualified name = true ∧ (∃ field ∈ schema.fields, field.name = name) ∧
    ∃ field ∈ schema.fields, field.name = unqualified name

theorem positions_eq_nil {named : String → Bool} :
    schema.positions named = [] ↔ ∀ field ∈ schema.fields, named field.name = false := by
  rw [List.eq_nil_iff_forall_not_mem]
  constructor
  · intro none field member
    obtain ⟨position, there⟩ := List.mem_iff_getElem?.mp member
    exact Bool.eq_false_iff.mpr fun matched => none position (mem_positions.mpr ⟨field, there, matched⟩)
  · intro none position found
    obtain ⟨field, there, matched⟩ := mem_positions.mp found
    rw [none field (List.mem_of_getElem? there)] at matched
    cases matched

-- Where the names find different fields, the longer one is the name of a field and so is its last part.
theorem resolve_unqualified_eq (unshadowed : ¬schema.Shadowed name)
    (resolved : schema.resolveFieldIndex name = .ok index)
    (again : schema.resolveFieldIndex (unqualified name) = .ok position) : index = position := by
  have plain := isQualified_unqualified name
  rcases resolveFieldIndex_ok.mp resolved with only | ⟨_, _, suffix⟩
  next =>
    obtain ⟨field, present, named⟩ := mem_positions.mp (only ▸ List.mem_singleton_self index)
    cases dotted : isQualified name with
    | false =>
      rw [unqualified_eq_self dotted, resolved] at again
      exact Except.ok.inj again
    | true =>
      rcases resolveFieldIndex_ok.mp again with taken | ⟨_, _, suffix⟩
      next =>
        obtain ⟨other, there, same⟩ := mem_positions.mp (taken ▸ List.mem_singleton_self position)
        exact absurd ⟨dotted, ⟨field, List.mem_of_getElem? present, of_decide_eq_true named⟩, other,
          List.mem_of_getElem? there, of_decide_eq_true same⟩ unshadowed
      next =>
        rw [unqualified_eq_self plain] at suffix
        refine List.mem_singleton.mp (suffix ▸ mem_positions.mpr ⟨field, present, ?_⟩)
        rw [of_decide_eq_true named, decide_eq_true rfl]
  next =>
    rw [← unqualified_eq_self plain] at suffix
    rw [resolve_unqualified plain suffix] at again
    exact Except.ok.inj again

-- The fields of the smaller schema are those that the names find.
structure Narrows (schema reduced : Schema) (names : List String) : Prop where
  distinct : names.Nodup
  plain : ∀ name ∈ names, isQualified name = false
  found : List.Forall₂ (fun name field => schema.findField name = .ok field) names reduced.fields

namespace Narrows

variable (narrows : schema.Narrows reduced names)

include narrows

theorem subset : reduced.fields ⊆ schema.fields := by
  intro field member
  obtain ⟨name, _, found⟩ := forall₂_mem narrows.found member
  obtain ⟨index, _, present⟩ := findField_ok.mp found
  exact List.mem_of_getElem? present

theorem lastParts : reduced.fields.map (unqualified ·.name) = names := by
  have same : List.Forall₂ (fun name field => unqualified field.name = name) names reduced.fields := by
    refine forall₂_imp_mem (fun name field member found => ?_) narrows.found
    obtain ⟨index, resolved, present⟩ := findField_ok.mp found
    rw [resolve_lastPart resolved present, unqualified_eq_self (narrows.plain name member)]
  exact (forall₂_eq.mp same.flip).symm

theorem suffix (here : names[position]? = some name) : reduced.positions (unqualified · = name) = [position] := by
  obtain ⟨field, present, _⟩ := forall₂_getElem? narrows.found here
  have last : unqualified field.name = name := by
    rw [← narrows.lastParts, List.getElem?_map, present, Option.map_some] at here
    exact Option.some.inj here
  rw [← positions_key unqualified (narrows.lastParts ▸ narrows.distinct) present, last]

theorem resolves (unshadowed : ¬schema.Shadowed name) (found : schema.findField name = .ok field)
    (here : names[position]? = some (unqualified name)) :
    reduced.fields[position]? = some field ∧ reduced.resolveFieldIndex name = .ok position := by
  obtain ⟨index, resolved, present⟩ := findField_ok.mp found
  obtain ⟨kept, there, again⟩ := forall₂_getElem? narrows.found here
  obtain rfl : field = kept := by
    obtain ⟨other, last, held⟩ := findField_ok.mp again
    obtain rfl := resolve_unqualified_eq unshadowed resolved last
    exact Option.some.inj (present.symm.trans held)
  refine ⟨there, resolveFieldIndex_ok.mpr ?_⟩
  have suffix := narrows.suffix here
  rcases resolveFieldIndex_ok.mp resolved with only | ⟨none, fallback, _⟩
  next =>
    obtain ⟨_, held, named⟩ := mem_positions.mp (only ▸ List.mem_singleton_self index)
    obtain rfl := Option.some.inj (present.symm.trans held)
    have fewer : (reduced.positions (· = name)).Sublist [position] := by
      rw [← suffix]
      exact positions_sublist fun column same => decide_eq_true (congrArg unqualified (of_decide_eq_true same))
    refine .inl ((List.sublist_singleton.mp fewer).resolve_left fun none => ?_)
    rw [positions_eq_nil.mp none field (List.mem_of_getElem? there)] at named
    cases named
  next =>
    refine .inr ⟨positions_eq_nil.mpr fun other member => ?_, fun both => fallback ?_, suffix⟩
    · exact positions_eq_nil.mp none other (narrows.subset member)
    · exact ⟨both.1, both.2.imp fun _ inside => ⟨narrows.subset inside.1, inside.2⟩⟩

end Narrows

end Schema

namespace Expr

variable {expr : Expr F} {name : String}

theorem mem_columns : name ∈ expr.columns ↔ ∃ reference ∈ expr.references, unqualified reference = name := by
  induction expr with
  | column found => simp [columns, references, eq_comm]
  | binary left op right leftIh rightIh =>
    simp only [columns, references, Finset.mem_union, leftIh, rightIh, List.mem_append, or_and_right, exists_or]
  | isNull _ _ ih | cast _ _ ih | aliased _ _ ih | aggregate _ _ _ ih => exact ih
  | literal | wildcard => simp [columns, references]

end Expr

namespace LogicalPlan

variable {exprs filters : List (Expr F)} {name table : String} {columns : Option (List String)}
  {schema declared : Schema}

theorem mem_requiredColumns : name ∈ requiredColumns exprs ↔
    ∃ expr ∈ exprs, ∃ reference ∈ expr.references, unqualified reference = name := by
  have folded (start : Finset String) : name ∈ exprs.foldl (fun required expr => required ∪ expr.columns) start ↔
      name ∈ start ∨ ∃ expr ∈ exprs, name ∈ expr.columns := by
    induction exprs generalizing start with
    | nil => simp
    | cons expr rest ih =>
      rw [List.foldl_cons, ih, Finset.mem_union, or_assoc]
      simp
  simp only [requiredColumns, folded, Finset.notMem_empty, false_or, Expr.mem_columns]

variable [FloatOps F] {plan : LogicalPlan F}

theorem pushProjection_ok :
    pushProjectionIntoScan (.projection (.scan table columns filters schema) exprs declared) = .ok plan ↔
      requiredColumns (exprs ++ filters) = ∅ ∧ ofProject (.scan table columns filters schema) exprs = .ok plan ∨
      requiredColumns (exprs ++ filters) ≠ ∅ ∧ ∃ fields : List Field,
        schema.Narrows { fields } ((requiredColumns (exprs ++ filters)).sort (· ≤ ·)) ∧
        ofProject (.scan table (some (fields.map (·.name))) filters { fields }) exprs = .ok plan := by
  have narrows {fields : List Field} :
      (∃ indices, projectionIndices schema (requiredColumns (exprs ++ filters)) = .ok indices ∧
        indices.mapM (fun index => expect schema.fields[index]? "index out of bounds") = .ok fields) ↔
      schema.Narrows { fields } ((requiredColumns (exprs ++ filters)).sort (· ≤ ·)) := by
    simp only [projectionIndices, mapM_ok, lift_ok, expect_ok, ← forall₂_comp, ← Schema.findField_ok]
    refine ⟨fun found => ⟨Finset.sort_nodup _ _, fun name member => ?_, found⟩, Schema.Narrows.found⟩
    obtain ⟨_, _, reference, _, rfl⟩ := mem_requiredColumns.mp ((Finset.mem_sort _).mp member)
    exact isQualified_unqualified reference
  rw [pushProjectionIntoScan]
  by_cases none : requiredColumns (exprs ++ filters) = ∅
  · simp [none]
  · simp only [none, if_false, bind_ok, false_and, false_or, ne_eq, not_false_eq_true, true_and]
    constructor
    · rintro ⟨indices, looked, fields, read, made⟩
      exact ⟨fields, narrows.mp ⟨indices, looked, read⟩, made⟩
    · rintro ⟨fields, found, made⟩
      obtain ⟨indices, looked, read⟩ := narrows.mpr found
      exact ⟨indices, looked, fields, read, made⟩

def KeepsColumn (schema : Schema) (name : String) (index : Nat) : LogicalPlan F → Prop
  | .projection (.scan _ (some columns) _ reduced) _ _ =>
    ∃ field position, schema.fields[index]? = some field ∧ field.name ∈ columns ∧
      reduced.resolveFieldIndex name = .ok position ∧ reduced.fields[position]? = some field
  | _ => False

theorem pushdown_keeps_columns_iff (distinct : schema.DistinctNames)
    (pushed : pushProjectionIntoScan (.projection (.scan table columns filters schema) exprs declared) = .ok plan) :
    (∀ expr ∈ exprs ++ filters, ∀ name ∈ expr.references, ∀ index,
        schema.resolveFieldIndex name = .ok index → plan.KeepsColumn schema name index) ↔
      ∀ expr ∈ exprs ++ filters, ∀ name ∈ expr.references, ¬schema.Shadowed name := by
  rcases pushProjection_ok.mp pushed with ⟨none, _⟩ | ⟨_, kept, narrows, made⟩
  next =>
    have unused {expr : Expr F} (member : expr ∈ exprs ++ filters) {name : String} : name ∉ expr.references := by
      intro used
      have required := mem_requiredColumns.mpr ⟨expr, member, name, used, rfl⟩
      rw [none] at required
      exact Finset.notMem_empty _ required
    exact iff_of_true (fun _ member _ used => absurd used (unused member))
      (fun _ member _ used => absurd used (unused member))
  next =>
    obtain ⟨fields, _, rfl⟩ := ofProject_ok.mp made
    refine forall₂_congr fun expr member => forall₂_congr fun name used => ?_
    have required := mem_requiredColumns.mpr ⟨expr, member, name, used, rfl⟩
    obtain ⟨position, here⟩ := List.mem_iff_getElem?.mp ((Finset.mem_sort (· ≤ ·)).mpr required)
    constructor
    · rintro keeps ⟨dotted, ⟨field, inside, rfl⟩, other, taken, last⟩
      obtain ⟨index, present⟩ := List.mem_iff_getElem?.mp inside
      obtain ⟨index', elsewhere⟩ := List.mem_iff_getElem?.mp taken
      obtain ⟨kept, place, same, _, _, there⟩ := keeps index (Schema.resolve_own distinct present)
      obtain rfl := Option.some.inj (present.symm.trans same)
      -- The smaller schema has one field with this last part, and that is the other one.
      obtain rfl : place = position := by
        refine List.mem_singleton.mp (narrows.suffix here ▸ Schema.mem_positions.mpr ⟨field, there, ?_⟩)
        exact decide_eq_true rfl
      obtain ⟨kept, again, found⟩ := forall₂_getElem? narrows.found here
      rw [← last, Schema.findField_ok.mpr ⟨index', Schema.resolve_own distinct elsewhere, elsewhere⟩] at found
      cases found
      obtain rfl := Option.some.inj (there.symm.trans again)
      rw [last, isQualified_unqualified] at dotted
      cases dotted
    · intro unshadowed index resolved
      have present := List.getElem?_eq_getElem (Schema.resolveFieldIndex_lt resolved)
      obtain ⟨there, again⟩ := narrows.resolves unshadowed (Schema.findField_ok.mpr ⟨index, resolved, present⟩) here
      exact ⟨_, position, present, List.mem_map_of_mem (List.mem_of_getElem? there), again, there⟩

def columnScan (names : List String) : LogicalPlan ℚ :=
  ofScan "t" { fields := names.map fun name => { name, dataType := .int64, nullable := true } }

theorem push_columnScan (names : List String) {kept : Field} {plan : LogicalPlan ℚ}
    (found : (columnScan names).schema.findField "a" = .ok kept)
    (made : ofProject (.scan "t" (some [kept.name]) [] { fields := [kept] }) [.column "t.a"] = .ok plan) :
    pushProjectionIntoScan (.projection (columnScan names) [.column "t.a"] (columnScan names).schema) =
      .ok plan := by
  have required : requiredColumns ([.column "t.a"] ++ ([] : List (Expr ℚ))) = {"a"} := by decide
  refine pushProjection_ok.mpr (.inr ⟨by decide, [kept], ?_, made⟩)
  rw [required, Finset.sort_singleton]
  exact ⟨List.nodup_singleton _, by decide, .cons found .nil⟩

theorem pushdown_keeps_of_plain :
    let schema := (columnScan ["t.a", "b"]).schema
    ∃ plan, pushProjectionIntoScan (.projection (columnScan ["t.a", "b"]) [.column "t.a"] schema) = .ok plan ∧
      schema.resolveFieldIndex "t.a" = .ok 0 ∧ plan.KeepsColumn schema "t.a" 0 := by
  have pushed := push_columnScan ["t.a", "b"] rfl rfl
  refine ⟨_, pushed, rfl, (pushdown_keeps_columns_iff (by decide) pushed).mpr ?_ (.column "t.a")
    (List.mem_singleton_self _) "t.a" (List.mem_singleton_self _) 0 rfl⟩
  rintro expr member name used ⟨_, _, other, inside, last⟩
  obtain rfl := List.mem_singleton.mp member
  obtain rfl := List.mem_singleton.mp used
  have others : ∀ field ∈ (columnScan ["t.a", "b"]).schema.fields, field.name ≠ "a" := by decide
  exact others other inside last

theorem pushdown_redirects :
    let schema := (columnScan ["t.a", "a"]).schema
    schema.DistinctNames ∧ schema.resolveFieldIndex "t.a" = .ok 0 ∧
      ∃ plan, pushProjectionIntoScan (.projection (columnScan ["t.a", "a"]) [.column "t.a"] schema) = .ok plan ∧
        ¬plan.KeepsColumn schema "t.a" 0 := by
  refine ⟨by decide, rfl, _, push_columnScan ["t.a", "a"] rfl rfl, ?_⟩
  rintro ⟨field, position, present, listed, _⟩
  cases present
  exact absurd listed (by decide)

end LogicalPlan

end SparkX
