import SparkX.Query.Names
import SparkX.Query.Sql

set_option autoImplicit false

namespace SparkX

variable {F : Type}

namespace Expr

variable {expr : Expr F} {schema other : Schema} {dataType : DataType}

theorem resolves_of_typed (typed : expr.dataType schema = .ok dataType) :
    ∀ name ∈ expr.typedColumns, ∃ index, schema.resolveFieldIndex name = .ok index := by
  induction expr generalizing dataType with
  | column name =>
    intro found member
    obtain rfl := List.mem_singleton.mp member
    obtain ⟨field, looked, _⟩ := map_eq_ok.mp typed
    obtain ⟨index, resolved, _⟩ := bind_ok.mp looked
    exact ⟨index, lift_ok.mp resolved⟩
  | literal | isNull | cast | wildcard => exact nofun
  | binary left op right leftIh rightIh =>
    obtain ⟨leftType, leftTyped, typed⟩ := bind_ok.mp typed
    obtain ⟨rightType, rightTyped, _⟩ := bind_ok.mp typed
    intro name found
    rcases List.mem_append.mp found with found | found
    · exact leftIh leftTyped name found
    · exact rightIh rightTyped name found
  | aliased expr name ih =>
    cases expr with
    | aliased => exact nofun
    | _ => exact ih typed
  | aggregate function expr distinct ih =>
    cases function with
    | count => exact nofun
    | _ =>
      obtain ⟨inner, innerTyped, _⟩ := bind_ok.mp typed
      exact ih innerTyped

theorem not_meetsNestedAlias (typed : expr.dataType schema = .ok dataType) :
    ¬expr.meetsNestedAlias other := by
  induction expr generalizing dataType with
  | column | literal | isNull | cast | wildcard => exact id
  | binary left op right leftIh rightIh =>
    obtain ⟨leftType, leftTyped, typed⟩ := bind_ok.mp typed
    obtain ⟨rightType, rightTyped, _⟩ := bind_ok.mp typed
    intro met
    rcases met with met | ⟨_, met⟩
    · exact leftIh leftTyped met
    · exact rightIh rightTyped met
  | aliased expr name ih =>
    cases expr with
    | aliased => exact nomatch typed
    | _ => exact ih typed
  | aggregate function expr distinct ih =>
    cases function with
    | count => exact fun met => met.1 rfl
    | _ =>
      obtain ⟨inner, innerTyped, _⟩ := bind_ok.mp typed
      exact fun met => ih innerTyped met.2

-- All columns are of one schema, and none of them is of the other one.
structure OfSide (expr : Expr F) (own other : Schema) : Prop where
  some : expr.references ≠ []
  here : ∀ name ∈ expr.references, ∃ index, own.resolveFieldIndex name = .ok index
  notThere : ∀ name ∈ expr.references, ∃ error, other.resolveFieldIndex name = .error error

theorem OfSide.dataType_other (side : expr.OfSide schema other)
    (typed : expr.dataType schema = .ok dataType) :
    (expr.typedColumns = [] ∧ expr.dataType other = .ok dataType) ∨
      expr.typedColumns ≠ [] ∧ ∃ error, expr.dataType other = .error (.error error) := by
  by_cases none : expr.typedColumns = []
  next => exact .inl ⟨none, (dataType_congr fun _ found => nomatch none ▸ found) ▸ typed⟩
  next =>
    refine .inr ⟨none, ?_⟩
    obtain ⟨name, found⟩ := List.exists_mem_of_ne_nil _ none
    cases result : expr.dataType other with
    | ok dataType =>
      obtain ⟨index, resolved⟩ := resolves_of_typed result name found
      obtain ⟨error, missing⟩ := side.notThere name (typedColumns_subset found)
      exact nomatch resolved.symm.trans missing
    | error fault =>
      cases fault with
      | error error => exact ⟨error, rfl⟩
      | panic message =>
        exact absurd (dataType_panics.mp ⟨message, result⟩) (not_meetsNestedAlias typed)

end Expr

variable {condition : SqlExpr} {pairs : List (SqlExpr × SqlExpr)}

namespace SqlExpr

-- The equalities of a condition that is a conjunction of equalities, parentheses or not.
def equalities : SqlExpr → Option (List (SqlExpr × SqlExpr))
  | .binaryOp left .and right => do return (← left.equalities) ++ (← right.equalities)
  | .binaryOp left .eq right => some [(left, right)]
  | .nested expr => expr.equalities
  | _ => none

def bare : SqlExpr → Bool
  | .binaryOp left .and right => left.bare && right.bare
  | .nested _ => false
  | _ => true

theorem equalities_ne_nil (conjunction : condition.equalities = some pairs) : pairs ≠ [] := by
  fun_induction equalities condition generalizing pairs with
  | case1 left right leftIh rightIh =>
    simp only [Option.bind_eq_bind, Option.bind_eq_some_iff, Option.pure_def, Option.some.injEq] at conjunction
    obtain ⟨first, leftSome, second, _, rfl⟩ := conjunction
    simp [leftIh leftSome]
  | case2 =>
    cases conjunction
    simp
  | case3 expr ih => exact ih conjunction
  | case4 => exact nomatch conjunction

end SqlExpr

namespace Session

variable [SqlTexts F]

theorem extractJoinPairs_eq {condition : SqlExpr} {pairs : List (SqlExpr × SqlExpr)}
    (conjunction : condition.equalities = some pairs) :
    (condition.bare = true ∧ extractJoinPairs F condition = .ok pairs) ∨
      condition.bare = false ∧ ∃ error, extractJoinPairs F condition = .error error := by
  fun_induction extractJoinPairs F condition generalizing pairs with
  | case1 left right leftIh rightIh =>
    simp only [SqlExpr.equalities, Option.bind_eq_bind, Option.bind_eq_some_iff, Option.pure_def,
      Option.some.injEq] at conjunction
    obtain ⟨first, leftSome, second, rightSome, rfl⟩ := conjunction
    simp only [SqlExpr.bare, Bool.and_eq_true, Bool.and_eq_false_iff]
    rcases leftIh leftSome with ⟨leftBare, leftOk⟩ | ⟨nested, error, failed⟩
    · rcases rightIh rightSome with ⟨rightBare, rightOk⟩ | ⟨nested, error, failed⟩
      · exact .inl ⟨⟨leftBare, rightBare⟩, by rw [leftOk, rightOk]; rfl⟩
      · exact .inr ⟨.inr nested, error, by rw [leftOk, failed]; rfl⟩
    · exact .inr ⟨.inl nested, error, by rw [failed]; rfl⟩
  | case2 left right =>
    cases conjunction
    exact .inl ⟨rfl, rfl⟩
  | case3 condition notAnd notEq =>
    cases condition with
    | nested expr => exact .inr ⟨rfl, _, rfl⟩
    | binaryOp left op right =>
      cases op with
      | and => exact absurd rfl (notAnd left right)
      | eq => exact absurd rfl (notEq left right)
      | _ => exact nomatch conjunction
    | _ => exact nomatch conjunction

variable [FloatOps F] {left right : Schema} {dataType : DataType}

omit [SqlTexts F] in
theorem side_left {expr : Expr F} (side : expr.OfSide left right)
    (typed : expr.dataType left = .ok dataType) :
    (expr.typedColumns ≠ [] ∧ joinExpressionSide expr left right = .ok .left) ∨
      expr.typedColumns = [] ∧ ∃ fault, joinExpressionSide expr left right = .error fault := by
  rcases side.dataType_other typed with ⟨none, there⟩ | ⟨some, error, failed⟩
  · exact .inr ⟨none, _, by simp only [joinExpressionSide, typed, there]; rfl⟩
  · exact .inl ⟨some, by simp only [joinExpressionSide, typed, failed]; rfl⟩

omit [SqlTexts F] in
theorem side_right {expr : Expr F} (side : expr.OfSide right left)
    (typed : expr.dataType right = .ok dataType) :
    (expr.typedColumns ≠ [] ∧ joinExpressionSide expr left right = .ok .right) ∨
      expr.typedColumns = [] ∧ ∃ fault, joinExpressionSide expr left right = .error fault := by
  rcases side.dataType_other typed with ⟨none, there⟩ | ⟨some, error, failed⟩
  · exact .inr ⟨none, _, by simp only [joinExpressionSide, typed, there]; rfl⟩
  · exact .inl ⟨some, by simp only [joinExpressionSide, typed, failed]; rfl⟩

-- The operands of an equality, either way round, as keys of the two sides with one type.
structure SidedKeys (left right : Schema) (pair : SqlExpr × SqlExpr) (key : Expr F × Expr F) : Prop where
  operands : (sqlExpr pair.1 = .ok key.1 ∧ sqlExpr pair.2 = .ok key.2) ∨
    (sqlExpr pair.1 = .ok key.2 ∧ sqlExpr pair.2 = .ok key.1)
  ofLeft : key.1.OfSide left right
  ofRight : key.2.OfSide right left
  typed : ∃ dataType, key.1.dataType left = .ok dataType ∧ key.2.dataType right = .ok dataType

def Inferred (key : Expr F × Expr F) : Prop := key.1.typedColumns ≠ [] ∧ key.2.typedColumns ≠ []

variable {pair : SqlExpr × SqlExpr} {found : Expr F × Expr F}

theorem joinKeys_ok {first second : Expr F} (one : sqlExpr pair.1 = .ok first)
    (two : sqlExpr pair.2 = .ok second) :
    joinKeys left right pair = .ok found ↔
      (joinExpressionSide first left right = .ok .left ∧ joinExpressionSide second left right = .ok .right ∧
        found = (first, second)) ∨
      (joinExpressionSide first left right = .ok .right ∧ joinExpressionSide second left right = .ok .left ∧
        found = (second, first)) := by
  unfold joinKeys
  rw [one, two]
  change (joinExpressionSide first left right >>= fun a => joinExpressionSide second left right >>= fun b =>
    _) = _ ↔ _
  cases joinExpressionSide first left right with
  | error fault => exact ⟨nofun, fun sides => sides.elim (nomatch ·.1) (nomatch ·.1)⟩
  | ok a =>
    cases joinExpressionSide second left right with
    | error fault => exact ⟨nofun, fun sides => sides.elim (nomatch ·.2.1) (nomatch ·.2.1)⟩
    | ok b => cases a <;> cases b <;> simp [bind, Except.bind, pure, Except.pure, eq_comm]

theorem SidedKeys.joinKeys_ok {key : Expr F × Expr F} (sided : SidedKeys left right pair key) :
    joinKeys left right pair = .ok found ↔ Inferred key ∧ found = key := by
  obtain ⟨dataType, leftTyped, rightTyped⟩ := sided.typed
  have first := side_left sided.ofLeft leftTyped
  have second := side_right sided.ofRight rightTyped
  unfold Inferred
  -- Whichever side cannot be told, the equality is refused.
  rcases sided.operands with ⟨one, two⟩ | ⟨one, two⟩
  all_goals
    rw [Session.joinKeys_ok one two]
    rcases first with ⟨some, first⟩ | ⟨none, fault, first⟩
    · rcases second with ⟨other, second⟩ | ⟨none, fault, second⟩
      · simp [first, second, some, other]
      · simp [second, none]
    · simp [first, none]

theorem mapM_joinKeys_ok {keys found : List (Expr F × Expr F)}
    (sided : List.Forall₂ (SidedKeys left right) pairs keys) :
    pairs.mapM (joinKeys left right) = .ok found ↔ (∀ key ∈ keys, Inferred key) ∧ found = keys := by
  rw [Rowwise.mapM_ok]
  induction sided generalizing found with
  | nil => simp
  | cons one _ ih =>
    cases found with
    | nil => simp
    | cons first rest =>
      rw [List.forall₂_cons, one.joinKeys_ok, ih, List.forall_mem_cons, List.cons.injEq]
      exact and_and_and_comm

-- Two tables of the catalog under different qualifiers, joined on one condition.
structure JoinsOn (catalog : Catalog F) (tables : TableWithJoins) (left right : LogicalPlan F)
    (joinType : JoinType) (condition : SqlExpr) : Prop where
  tables : ∃ join leftQualifier rightQualifier, tables.joins = [join] ∧
    tableFactor catalog tables.relation = .ok (left, leftQualifier) ∧
    tableFactor catalog join.relation = .ok (right, rightQualifier) ∧
    leftQualifier ≠ rightQualifier ∧ joinConstraint join.joinOperator = .ok (joinType, .on condition)

theorem JoinsOn.planFrom_eq {catalog : Catalog F} {tables : TableWithJoins} {left right : LogicalPlan F}
    {joinType : JoinType} (joins : JoinsOn catalog tables left right joinType condition) :
    planFrom catalog tables = (do
      let pairs ← extractJoinPairs F condition
      let keys ← pairs.mapM (joinKeys left.schema right.schema)
      LogicalPlan.ofJoin left right joinType (keys.map (·.1)) (keys.map (·.2))) := by
  obtain ⟨join, leftQualifier, rightQualifier, one, leftTable, rightTable, apart, operator⟩ := joins.tables
  unfold planFrom planJoin
  rw [one, leftTable, rejectIf_ok.mpr (by simp)]
  change ((liftM (tableFactor catalog join.relation) : Except Fault _) >>= _) = _
  rw [rightTable]
  change (rejectIf (leftQualifier = rightQualifier) _ >>= _) = _
  rw [rejectIf_ok.mpr apart]
  change ((liftM (joinConstraint join.joinOperator) : Except Fault _) >>= _) = _
  rw [operator]
  rfl

theorem join_sides_iff {catalog : Catalog F} {tables : TableWithJoins} {left right : LogicalPlan F}
    {joinType : JoinType} {condition : SqlExpr} {pairs : List (SqlExpr × SqlExpr)}
    {keys : List (Expr F × Expr F)} (joins : JoinsOn catalog tables left right joinType condition)
    (conjunction : condition.equalities = some pairs)
    (sided : List.Forall₂ (SidedKeys left.schema right.schema) pairs keys) :
    (∃ schema, planFrom catalog tables =
        .ok (.join left right joinType (keys.map (·.1)) (keys.map (·.2)) schema)) ↔
      condition.bare = true ∧ ∀ key ∈ keys, Inferred key := by
  rw [joins.planFrom_eq]
  rcases @extractJoinPairs_eq F _ _ _ conjunction with ⟨bare, extracted⟩ | ⟨nested, error, failed⟩
  case inr =>
    rw [failed, nested]
    exact iff_of_false (fun ⟨_, planned⟩ => nomatch planned) (fun both => nomatch both.1)
  rw [extracted]
  change (∃ schema, (pairs.mapM (joinKeys left.schema right.schema) >>= fun keys =>
    LogicalPlan.ofJoin left right joinType (keys.map (·.1)) (keys.map (·.2))) = _) ↔ _
  simp only [bind_ok, mapM_joinKeys_ok sided, bare, true_and]
  constructor
  · exact fun ⟨_, _, ⟨inferred, _⟩, _⟩ => inferred
  · intro inferred
    refine ⟨_, keys, ⟨inferred, rfl⟩, LogicalPlan.ofJoin_ok.mpr ⟨?_, ?_, rfl⟩⟩
    · intro empty
      rw [List.map_eq_nil_iff] at empty
      subst empty
      cases sided
      exact SqlExpr.equalities_ne_nil conjunction rfl
    · rw [List.forall₂_map_left_iff, List.forall₂_map_right_iff, List.forall₂_same]
      intro key member
      obtain ⟨pair, _, typed⟩ := Rowwise.forall₂_mem sided member
      exact typed.typed

instance sampleTexts : SqlTexts ℚ where
  display _ := "condition"
  parseFloat _ := none

def columnTable (name : String) : TableProvider ℚ :=
  MemoryTable.provider
    { schema := { fields := [{ name, dataType := .int64, nullable := false }] }, partitions := [[]]
      uniform := by simp }

def twoTables : Catalog ℚ where
  tables name :=
    if name = "l" then some (columnTable "a") else if name = "r" then some (columnTable "b") else none

def tableScan (table column : String) : LogicalPlan ℚ :=
  .ofScan table (qualifySchema (columnTable column).schema table)

-- `l JOIN r ON …`
def joinOf (condition : SqlExpr) : TableWithJoins :=
  { relation := .table "l" none false
    joins := [{ relation := .table "r" none false, joinOperator := .join (.on condition) }] }

theorem joinOf_joins (condition : SqlExpr) :
    JoinsOn twoTables (joinOf condition) (tableScan "l" "a") (tableScan "r" "b") .inner condition :=
  ⟨_, "l", "r", rfl, rfl, rfl, by decide, rfl⟩

def columnA : SqlExpr := .compoundIdentifier ["l", "a"]

def columnB : SqlExpr := .compoundIdentifier ["r", "b"]

theorem columnA_ofSide : (Expr.column "l.a" : Expr ℚ).OfSide (tableScan "l" "a").schema
    (tableScan "r" "b").schema where
  some := nofun
  here := by simp [Expr.references]; exact ⟨0, rfl⟩
  notThere := by simp [Expr.references]; exact ⟨_, rfl⟩

theorem columnB_ofSide : (Expr.column "r.b" : Expr ℚ).OfSide (tableScan "r" "b").schema
    (tableScan "l" "a").schema where
  some := nofun
  here := by simp [Expr.references]; exact ⟨0, rfl⟩
  notThere := by simp [Expr.references]; exact ⟨_, rfl⟩

theorem join_sides_of_columns :
    ∃ schema, planFrom twoTables (joinOf (.binaryOp columnB .eq columnA)) =
      .ok (.join (tableScan "l" "a") (tableScan "r" "b") .inner [.column "l.a"] [.column "r.b"] schema) := by
  have sided : SidedKeys (tableScan "l" "a").schema (tableScan "r" "b").schema (columnB, columnA)
      (.column "l.a", .column "r.b") :=
    ⟨.inr ⟨rfl, rfl⟩, columnA_ofSide, columnB_ofSide, .int64, rfl, rfl⟩
  refine (join_sides_iff (joinOf_joins _) rfl (.cons sided .nil)).mpr ⟨rfl, ?_⟩
  simp [Inferred, Expr.typedColumns]

theorem cast_key_is_refused :
    let condition := SqlExpr.binaryOp (.cast .cast columnA .bigInt false false) .eq columnB
    JoinsOn twoTables (joinOf condition) (tableScan "l" "a") (tableScan "r" "b") .inner condition ∧
    SidedKeys (tableScan "l" "a").schema (tableScan "r" "b").schema
      (.cast .cast columnA .bigInt false false, columnB)
      ((.cast (.column "l.a") .int64, .column "r.b") : Expr ℚ × Expr ℚ) ∧
    ∃ error, planFrom twoTables (joinOf condition) = .error (.error error) := by
  refine ⟨joinOf_joins _, ⟨.inl ⟨rfl, rfl⟩, ?_, columnB_ofSide, .int64, rfl, rfl⟩, _, rfl⟩
  exact ⟨nofun, columnA_ofSide.here, columnA_ofSide.notThere⟩

end Session

end SparkX
