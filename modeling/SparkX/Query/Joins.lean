import SparkX.Query.Logical
import SparkX.Query.Names
import SparkX.Shared.Renaming

set_option autoImplicit false

namespace SparkX

variable {F : Type}

def rightName (name : String) : String := qualified "right" name

-- A column of the right side is renamed to the name of a column that is already there.
def Schema.RightNamesClash (left right : Schema) : Prop :=
  Renaming.Clashes rightName (left.fields.map (·.name)) (right.fields.map (·.name))

theorem rightName_injective : Function.Injective rightName := fun _ _ => qualified_inj.mp

theorem joinFields_names (left right : Schema) (joinType : JoinType) :
    (LogicalPlan.joinFields left right joinType).map (·.name) =
      Renaming.addAll rightName (left.fields.map (·.name)) (right.fields.map (·.name)) := by
  unfold LogicalPlan.joinFields Renaming.addAll
  generalize left.fields = fields
  induction right.fields generalizing fields with
  | nil => rfl
  | cons field rest ih =>
    rw [List.foldl_cons, List.map_cons, List.foldl_cons, ih]
    congr 1
    have named : (if joinType = .left then { field with nullable := true } else field).name =
        field.name := by
      split <;> rfl
    have taken : fields.any (fun existing => existing.name = field.name) = true ↔
        field.name ∈ fields.map (·.name) := by
      simp
    simp only [Renaming.add, List.map_append, List.map_singleton, named, List.append_cancel_left_eq,
      List.cons.injEq, and_true]
    by_cases present : field.name ∈ fields.map (·.name)
    next =>
      rw [if_pos present, if_pos (taken.mpr present)]
      rfl
    next =>
      rw [if_neg present, if_neg (fun found => present (taken.mp found)), named]

theorem joinFields_left (left right : Schema) (joinType : JoinType) :
    left.fields <+: LogicalPlan.joinFields left right joinType := by
  unfold LogicalPlan.joinFields
  generalize left.fields = fields
  induction right.fields generalizing fields with
  | nil => exact List.prefix_rfl
  | cons field rest ih => exact (List.prefix_append _ _).trans (ih _)

theorem joinFields_distinct {left right : Schema} (leftNames : left.DistinctNames)
    (rightNames : right.DistinctNames) (joinType : JoinType) :
    Schema.DistinctNames { fields := LogicalPlan.joinFields left right joinType } ↔
      ¬left.RightNamesClash right := by
  unfold Schema.DistinctNames
  rw [joinFields_names]
  exact Renaming.nodup_addAll rightName_injective leftNames rightNames

def Schema.Addressable (schema : Schema) : Prop :=
  ∀ index field, schema.fields[index]? = some field → schema.resolveFieldIndex field.name = .ok index

theorem join_addressable_iff {left right plan : LogicalPlan F} {joinType : JoinType}
    {leftOn rightOn : List (Expr F)} (leftNames : left.schema.DistinctNames)
    (rightNames : right.schema.DistinctNames)
    (made : LogicalPlan.ofJoin left right joinType leftOn rightOn = .ok plan) :
    (plan.schema.DistinctNames ∧ plan.schema.Addressable ∧ left.schema.fields <+: plan.schema.fields ∧
        plan.schema = joinSchema left.schema right.schema joinType) ↔
      ¬left.schema.RightNamesClash right.schema := by
  obtain ⟨_, _, rfl⟩ := LogicalPlan.ofJoin_ok.mp made
  have distinct := joinFields_distinct leftNames rightNames joinType
  constructor
  · exact fun ⟨names, _⟩ => distinct.mp names
  · intro free
    have names := distinct.mpr free
    exact ⟨names, fun _ _ present => Schema.resolve_own names present, joinFields_left _ _ _, rfl⟩

def namedScan (names : List String) : LogicalPlan Unit :=
  LogicalPlan.ofScan "t" { fields := names.map fun name => { name, dataType := .int64, nullable := false } }

def joinedOnA (left right : List String) : Except Fault (LogicalPlan Unit) :=
  LogicalPlan.ofJoin (namedScan left) (namedScan right) .inner [.column "a"] [.column "a"]

theorem join_addressable_of_repaired :
    ∃ plan, joinedOnA ["a"] ["a", "b"] = .ok plan ∧ plan.schema.Addressable := by
  have free : ¬(namedScan ["a"]).schema.RightNamesClash (namedScan ["a", "b"]).schema :=
    (joinFields_distinct (by decide) (by decide) .inner).mp (by decide)
  have made : joinedOnA ["a"] ["a", "b"] = .ok _ := rfl
  exact ⟨_, made, ((join_addressable_iff (by decide) (by decide) made).mpr free).2.1⟩

theorem right_name_taken :
    (namedScan ["a", "right.a"]).schema.DistinctNames ∧ (namedScan ["a"]).schema.DistinctNames ∧
    ∃ plan, joinedOnA ["a", "right.a"] ["a"] = .ok plan ∧ ¬plan.schema.DistinctNames := by
  exact ⟨by decide, by decide, _, rfl, by decide⟩

end SparkX
