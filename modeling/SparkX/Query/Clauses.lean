import SparkX.Query.Sides

set_option autoImplicit false

namespace SparkX

open Rowwise

variable {F : Type}

inductive PlanOperator (F : Type) where
  | scan (table : String)
  | projection (exprs : List (Expr F))
  | filter (predicate : Expr F)
  | aggregate (groupExprs aggregateExprs : List (Expr F))
  | sort (exprs : List (SortExpr F))
  | limit (count : Nat)
  | join (joinType : JoinType)

inductive OperatorClass where
  | scan
  | projection
  | filter
  | aggregate
  | sort
  | limit
  | join
deriving DecidableEq

def PlanOperator.kind : PlanOperator F → OperatorClass
  | .scan _ => .scan
  | .projection _ => .projection
  | .filter _ => .filter
  | .aggregate _ _ => .aggregate
  | .sort _ => .sort
  | .limit _ => .limit
  | .join _ => .join

def LogicalPlan.operators : LogicalPlan F → List (PlanOperator F)
  | .scan table _ _ _ => [.scan table]
  | .projection input exprs _ => .projection exprs :: input.operators
  | .filter input predicate _ => .filter predicate :: input.operators
  | .aggregate input groupExprs aggregateExprs _ => .aggregate groupExprs aggregateExprs :: input.operators
  | .sort input exprs _ => .sort exprs :: input.operators
  | .limit input count _ => .limit count :: input.operators
  | .join left right joinType _ _ _ => .join joinType :: (left.operators ++ right.operators)

-- A clause that changes the result.
inductive Clause where
  | selection (expr : SqlExpr)
  | groupBy (projection : List SelectItem) (groupBy : GroupByExpr)
  | having (expr : SqlExpr)
  | qualify (expr : SqlExpr)
  | orderBy (orderBy : OrderBy)
  | limit (clause : LimitClause)
  | fetch (quantity : RowQuantity)
  | top (quantity : RowQuantity)

def Clause.kind : Clause → OperatorClass
  | .selection _ | .having _ | .qualify _ => .filter
  | .groupBy _ _ => .aggregate
  | .orderBy _ => .sort
  | .limit _ | .fetch _ | .top _ => .limit

def GroupByExpr.isPresent : GroupByExpr → Bool
  | .expressions [] _ => false
  | _ => true

def Query.clauses (query : Query) (select : Select) : List Clause :=
  query.limitClause.toList.map .limit ++ query.fetch.toList.map .fetch ++ select.top.toList.map .top ++
    query.orderBy.toList.map .orderBy ++ select.qualify.toList.map .qualify ++
    select.having.toList.map .having ++
    (if select.groupBy.isPresent then [.groupBy select.projection select.groupBy] else []) ++
    select.selection.toList.map .selection

def WildcardOptions.isEmpty (options : WildcardOptions) : Bool :=
  options.exclude.isEmpty && options.except.isEmpty && options.replace.isEmpty

def SelectItem.plain : SelectItem → SelectItem
  | .wildcard _ => .wildcard {}
  | item => item

def SelectItem.hasOptions : SelectItem → Bool
  | .wildcard options => !options.isEmpty
  | _ => false

def Select.plain (select : Select) : Select :=
  { select with projection := select.projection.map SelectItem.plain }

namespace Session

variable [SqlTexts F]

-- What the operator has to be for the clause. No operator of a plan takes a number of rows other
-- than the one of a limit, so any limit will do for `FETCH` and `TOP`.
inductive Represents : Clause → PlanOperator F → Prop where
  | selection {expr : SqlExpr} {predicate : Expr F} (translated : sqlExpr expr = .ok predicate) :
    Represents (.selection expr) (.filter predicate)
  | having {expr : SqlExpr} {predicate : Expr F} (translated : sqlExpr expr = .ok predicate) :
    Represents (.having expr) (.filter predicate)
  | qualify {expr : SqlExpr} {predicate : Expr F} (translated : sqlExpr expr = .ok predicate) :
    Represents (.qualify expr) (.filter predicate)
  | groupBy {projection : List SelectItem} {groupBy : GroupByExpr}
    {items groups aggregates : List (Expr F)} (translated : projection.mapM selectItem = .ok items)
    (grouped : groupExprs items groupBy = .ok groups) :
    Represents (.groupBy projection groupBy) (.aggregate groups aggregates)
  | orderBy {orderBy : OrderBy} {exprs : List (SortExpr F)} (translated : orderExprs orderBy = .ok exprs) :
    Represents (.orderBy orderBy) (.sort exprs)
  | limit {clause : LimitClause} {count : Nat} (parsed : parseLimit (some clause) = .ok (some count)) :
    Represents (.limit clause) (.limit count)
  | fetch {quantity : RowQuantity} {count : Nat} : Represents (.fetch quantity) (.limit count)
  | top {quantity : RowQuantity} {count : Nat} : Represents (.top quantity) (.limit count)

theorem Represents.same_kind {clause : Clause} {operator : PlanOperator F}
    (represents : Represents clause operator) : operator.kind = clause.kind := by
  cases represents <;> rfl

variable [FloatOps F]

-- Every clause has an operator of the plan to itself, and a wildcard with options, or a group of all
-- items with modifiers, gives another plan than the same without. Modifiers of listed groups are
-- never planned.
structure ClausesRepresented (catalog : Catalog F) (query : Query) (select : Select)
    (plan : LogicalPlan F) : Prop where
  operators : ∃ chosen : List (PlanOperator F), chosen.Subperm plan.operators ∧
    List.Forall₂ Represents (query.clauses select) chosen
  options : (∃ item ∈ select.projection, item.hasOptions = true) →
    planQuery catalog { query with body := .select select.plain } ≠ .ok plan
  modifiers : select.groupBy = .all true →
    planQuery catalog { query with body := .select { select with groupBy := .all false } } ≠ .ok plan

def Aggregated (F : Type) [SqlTexts F] (select : Select) : Prop :=
  (∃ expr rest modifiers, select.groupBy = .expressions (expr :: rest) modifiers) ∨
    (∃ modifiers, select.groupBy = .all modifiers ∧ select.projection ≠ []) ∨
    ∃ item ∈ select.projection, ∃ expr : Expr F, selectItem item = .ok expr ∧ expr.containsAggregate = true

structure Supported (F : Type) [SqlTexts F] (query : Query) (select : Select) : Prop where
  fetch : query.fetch = none
  top : select.top = none
  qualify : select.qualify = none
  options : ∀ item ∈ select.projection, item.hasOptions = false
  having : select.having ≠ none → Aggregated F select
  groups : ∀ modifiers, select.groupBy = .all modifiers → modifiers = false ∧ select.projection ≠ []

section

variable {catalog : Catalog F} {plan : LogicalPlan F}

omit [FloatOps F] [SqlTexts F] in
theorem tableFactor_operators {factor : TableFactor} {qualifier : String}
    (found : tableFactor catalog factor = .ok (plan, qualifier)) :
    ∃ table, plan.operators = [.scan table] := by
  cases factor with
  | table name aliasName args =>
    obtain ⟨_, found⟩ := check_ok.mp found
    obtain ⟨provider, _, found⟩ := bind_ok.mp found
    cases found
    exact ⟨name, rfl⟩
  | other text => exact nomatch found

theorem planFrom_operators {tables : TableWithJoins} (planned : planFrom catalog tables = .ok plan) :
    ∀ operator ∈ plan.operators, operator.kind = .scan ∨ operator.kind = .join := by
  obtain ⟨_, planned⟩ := check_ok.mp planned
  obtain ⟨⟨left, leftQualifier⟩, leftFound, planned⟩ := bind_ok.mp planned
  obtain ⟨leftTable, leftScan⟩ := tableFactor_operators (lift_ok.mp leftFound)
  cases joins : tables.joins with
  | nil =>
    simp only [joins] at planned
    cases planned
    simp [leftScan, PlanOperator.kind]
  | cons join rest =>
    simp only [joins] at planned
    obtain ⟨⟨right, rightQualifier⟩, rightFound, planned⟩ := bind_ok.mp planned
    obtain ⟨rightTable, rightScan⟩ := tableFactor_operators (lift_ok.mp rightFound)
    obtain ⟨_, planned⟩ := check_ok.mp planned
    obtain ⟨_, _, planned⟩ := bind_ok.mp planned
    obtain ⟨_, _, planned⟩ := bind_ok.mp planned
    obtain ⟨_, _, planned⟩ := bind_ok.mp planned
    obtain ⟨_, _, planned⟩ := bind_ok.mp planned
    obtain ⟨_, _, rfl⟩ := LogicalPlan.ofJoin_ok.mp planned
    simp [LogicalPlan.operators, leftScan, rightScan, PlanOperator.kind]

omit [FloatOps F] in
theorem planFilter_operators {after : LogicalPlan F} {expr : Option SqlExpr} (clause : SqlExpr → Clause)
    (represents : ∀ expr (predicate : Expr F), sqlExpr expr = .ok predicate →
      Represents (clause expr) (.filter predicate))
    (planned : planFilter plan expr = .ok after) :
    ∃ filters, after.operators = filters ++ plan.operators ∧
      List.Forall₂ Represents (expr.toList.map clause) filters := by
  cases expr with
  | none =>
    cases planned
    exact ⟨[], rfl, .nil⟩
  | some expr =>
    obtain ⟨predicate, translated, planned⟩ := bind_ok.mp planned
    obtain ⟨_, rfl⟩ := LogicalPlan.ofFilter_ok.mp planned
    exact ⟨[.filter predicate], rfl, .cons (represents expr predicate (lift_ok.mp translated)) .nil⟩

omit [FloatOps F] in
theorem planSort_operators {after : LogicalPlan F} {orderBy : Option OrderBy}
    (planned : planSort plan orderBy = .ok after) :
    ∃ sorts, after.operators = sorts ++ plan.operators ∧
      List.Forall₂ Represents (orderBy.toList.map .orderBy) sorts := by
  cases orderBy with
  | none =>
    cases planned
    exact ⟨[], rfl, .nil⟩
  | some orderBy =>
    obtain ⟨exprs, translated, planned⟩ := bind_ok.mp planned
    obtain ⟨_, planned⟩ := check_ok.mp planned
    cases planned
    exact ⟨[.sort exprs], rfl, .cons (.orderBy (lift_ok.mp translated)) .nil⟩

omit [FloatOps F] in
theorem planLimit_operators {clause : Option LimitClause} {count : Option Nat}
    (parsed : parseLimit clause = .ok count) :
    List.Forall₂ (Represents (F := F)) (clause.toList.map .limit) (count.toList.map .limit) := by
  cases clause with
  | none =>
    cases parsed
    exact .nil
  | some clause =>
    cases count with
    | some count => exact .cons (.limit parsed) .nil
    | none =>
      cases clause with
      | offsetCommaLimit => exact nomatch parsed
      | limitOffset limit offset limitBy =>
        obtain ⟨_, parsed⟩ := check_ok.mp parsed
        split at parsed
        next =>
          obtain ⟨_, _, parsed⟩ := bind_ok.mp parsed
          exact nomatch parsed
        next => exact nomatch parsed

variable {select : Select}

theorem aggregated_iff {items groups aggregates : List (Expr F)}
    (translated : select.projection.mapM selectItem = .ok items)
    (grouped : groupExprs items select.groupBy = .ok groups)
    (collected : aggregateExprs items = .ok aggregates) :
    (groups ≠ [] ∨ aggregates ≠ []) ↔ Aggregated F select := by
  have items_ok := mapM_ok.mp translated
  have aggregates_eq : aggregates = items.filter (·.containsAggregate) := by
    simp only [aggregateExprs] at collected
    split at collected
    next => exact nomatch collected
    next => exact (Except.ok.inj collected).symm
  have aggregate_item : aggregates ≠ [] ↔ ∃ item ∈ select.projection, ∃ expr : Expr F,
      selectItem item = .ok expr ∧ expr.containsAggregate = true := by
    rw [aggregates_eq, ne_eq, List.filter_eq_nil_iff]
    push Not
    constructor
    · intro ⟨expr, member, holds⟩
      obtain ⟨item, inside, found⟩ := forall₂_mem items_ok member
      exact ⟨item, inside, expr, found, holds⟩
    · intro ⟨item, member, expr, found, holds⟩
      obtain ⟨other, inside, same⟩ := forall₂_mem items_ok.flip member
      cases same.symm.trans found
      exact ⟨expr, inside, holds⟩
  unfold Aggregated
  rw [← aggregate_item]
  cases present : select.groupBy with
  | expressions exprs modifiers =>
    rw [present] at grouped
    obtain ⟨_, grouped⟩ := check_ok.mp grouped
    have lengths := (mapM_ok.mp grouped).length_eq
    cases exprs with
    | nil =>
      cases groups with
      | nil => simp
      | cons => simp at lengths
    | cons expr rest =>
      cases groups with
      | nil => simp at lengths
      | cons => simp
  | all modifiers =>
    rw [present] at grouped
    cases grouped
    -- An item is a group or holds an aggregate, so there is one of them if there is an item.
    have lengths := items_ok.length_eq
    rw [aggregates_eq]
    cases items with
    | nil =>
      have none : select.projection = [] := List.eq_nil_of_length_eq_zero lengths
      simp [none]
    | cons item rest =>
      have some : select.projection ≠ [] := by
        intro none
        simp [none] at lengths
      cases aggregate : item.containsAggregate <;> simp [aggregate, some]

-- The operators of a select: those that stand for its clauses, over those of its tables.
inductive SelectOperators (select : Select) : List (PlanOperator F) → Prop where
  | aggregated {havings selections tables : List (PlanOperator F)} {exprs groups aggregates : List (Expr F)}
    (some : Aggregated F select)
    (having : List.Forall₂ Represents (select.having.toList.map .having) havings)
    (grouped : Represents (.groupBy select.projection select.groupBy)
      (.aggregate groups aggregates : PlanOperator F))
    (selected : List.Forall₂ Represents (select.selection.toList.map .selection) selections)
    (scanned : ∀ operator ∈ tables, operator.kind = .scan ∨ operator.kind = .join) :
    SelectOperators select
      (havings ++ (.projection exprs :: .aggregate groups aggregates :: (selections ++ tables)))
  | plain {selections tables : List (PlanOperator F)} {exprs : List (Expr F)}
    (none : ¬Aggregated F select)
    (selected : List.Forall₂ Represents (select.selection.toList.map .selection) selections)
    (scanned : ∀ operator ∈ tables, operator.kind = .scan ∨ operator.kind = .join) :
    SelectOperators select (.projection exprs :: (selections ++ tables))

theorem planSelect_operators (planned : planSelect catalog select = .ok plan) :
    SelectOperators select plan.operators := by
  obtain ⟨_, planned⟩ := check_ok.mp planned
  split at planned
  case h_2 => exact nomatch planned
  next tables _ =>
    obtain ⟨source, from_ok, planned⟩ := bind_ok.mp planned
    obtain ⟨filtered, filter_ok, planned⟩ := bind_ok.mp planned
    obtain ⟨items, items_ok, planned⟩ := bind_ok.mp planned
    obtain ⟨groups, groups_ok, planned⟩ := bind_ok.mp planned
    obtain ⟨aggregates, aggregates_ok, planned⟩ := bind_ok.mp planned
    have translated : select.projection.mapM selectItem = .ok items :=
      mapM_ok.mpr ((mapM_ok.mp items_ok).imp fun _ _ found => lift_ok.mp found)
    have grouped := lift_ok.mp groups_ok
    have aggregated := aggregated_iff translated grouped (lift_ok.mp aggregates_ok)
    obtain ⟨selections, filter_operators, selected⟩ :=
      planFilter_operators .selection (fun _ _ => .selection) filter_ok
    have scanned := planFrom_operators from_ok
    split at planned
    next some =>
      obtain ⟨aggregate, aggregate_ok, planned⟩ := bind_ok.mp planned
      obtain ⟨project, project_ok, planned⟩ := bind_ok.mp planned
      obtain ⟨havings, having_operators, having⟩ :=
        planFilter_operators .having (fun _ _ => .having) planned
      obtain ⟨_, _, rfl⟩ := LogicalPlan.ofAggregate_ok.mp aggregate_ok
      obtain ⟨_, _, rfl⟩ := LogicalPlan.ofProject_ok.mp project_ok
      rw [having_operators]
      simp only [LogicalPlan.operators, filter_operators]
      exact .aggregated (aggregated.mp some) having (.groupBy translated grouped) selected scanned
    next none =>
      obtain ⟨_, _, rfl⟩ := LogicalPlan.ofProject_ok.mp planned
      simp only [LogicalPlan.operators, filter_operators]
      exact .plain (fun some => none (aggregated.mpr some)) selected scanned

theorem planQuery_operators {query : Query} (body : query.body = .select select)
    (planned : planQuery catalog query = .ok plan) :
    ∃ limits sorts rest, plan.operators = limits ++ sorts ++ rest ∧
      List.Forall₂ Represents (query.limitClause.toList.map .limit) limits ∧
      List.Forall₂ Represents (query.orderBy.toList.map .orderBy) sorts ∧ SelectOperators select rest := by
  obtain ⟨_, planned⟩ := check_ok.mp planned
  simp only [body] at planned
  obtain ⟨core, select_ok, planned⟩ := bind_ok.mp planned
  obtain ⟨sorted, sort_ok, planned⟩ := bind_ok.mp planned
  obtain ⟨count, limit_ok, planned⟩ := bind_ok.mp planned
  obtain ⟨sorts, sort_operators, sortClause⟩ := planSort_operators sort_ok
  have limited := planLimit_operators (F := F) (lift_ok.mp limit_ok)
  refine ⟨count.toList.map .limit, sorts, core.operators, ?_, limited, sortClause,
    planSelect_operators select_ok⟩
  cases count with
  | none =>
    cases planned
    exact sort_operators
  | some count =>
    cases planned
    simp [LogicalPlan.ofLimit, LogicalPlan.operators, sort_operators]

end

def countKind (kind : OperatorClass) (operators : List (PlanOperator F)) : Nat :=
  (operators.map PlanOperator.kind).count kind

omit [SqlTexts F] [FloatOps F] in
@[simp] theorem countKind_append (kind : OperatorClass) (first second : List (PlanOperator F)) :
    countKind kind (first ++ second) = countKind kind first + countKind kind second := by
  simp [countKind]

omit [SqlTexts F] [FloatOps F] in
@[simp] theorem countKind_cons (kind : OperatorClass) (operator : PlanOperator F)
    (rest : List (PlanOperator F)) :
    countKind kind (operator :: rest) = countKind kind rest + if operator.kind = kind then 1 else 0 := by
  simp [countKind, List.count_cons]

omit [SqlTexts F] [FloatOps F] in
theorem countKind_tables {tables : List (PlanOperator F)}
    (scanned : ∀ operator ∈ tables, operator.kind = .scan ∨ operator.kind = .join)
    {kind : OperatorClass} (notScan : kind ≠ .scan) (notJoin : kind ≠ .join) : countKind kind tables = 0 := by
  rw [countKind, List.count_eq_zero]
  intro member
  obtain ⟨operator, inside, rfl⟩ := List.mem_map.mp member
  exact (scanned operator inside).elim notScan notJoin

omit [SqlTexts F] [FloatOps F] in
theorem countKind_le {chosen operators : List (PlanOperator F)} (within : chosen.Subperm operators)
    (kind : OperatorClass) : countKind kind chosen ≤ countKind kind operators := by
  obtain ⟨arranged, same, kept⟩ := within
  unfold countKind
  rw [← (same.map _).count_eq]
  exact (kept.map _).count_le _

omit [FloatOps F] in
theorem countKind_represents {clauses : List Clause} {operators : List (PlanOperator F)}
    (represents : List.Forall₂ Represents clauses operators) (kind : OperatorClass) :
    countKind kind operators = (clauses.map Clause.kind).count kind := by
  have kinds : operators.map PlanOperator.kind = clauses.map Clause.kind := by
    induction represents with
    | nil => rfl
    | cons first _ ih => rw [List.map_cons, List.map_cons, first.same_kind, ih]
  rw [countKind, kinds]

theorem count_clause {α : Type} (present : Option α) (clause : α → Clause) (kind own : OperatorClass)
    (same : ∀ value, (clause value).kind = own) :
    ((present.toList.map clause).map Clause.kind).count kind =
      if own = kind then present.toList.length else 0 := by
  cases present with
  | none => simp
  | some value => simp [same, List.count_cons]

section

variable {query : Query} {select : Select}

omit [FloatOps F] in
theorem aggregated_of_present (groups : ∀ modifiers, select.groupBy = .all modifiers → select.projection ≠ [])
    (present : select.groupBy.isPresent = true) : Aggregated F select := by
  cases grouped : select.groupBy with
  | all modifiers => exact .inr (.inl ⟨modifiers, grouped, groups modifiers grouped⟩)
  | expressions exprs modifiers =>
    cases exprs with
    | nil => simp [grouped, GroupByExpr.isPresent] at present
    | cons expr rest => exact .inl ⟨expr, rest, modifiers, grouped⟩

omit [FloatOps F] in
theorem SelectOperators.chosen {operators : List (PlanOperator F)}
    (shape : SelectOperators select operators) (supported : Supported F query select) :
    ∃ chosen, chosen.Sublist operators ∧ List.Forall₂ Represents
      (select.having.toList.map .having ++
        (if select.groupBy.isPresent then [.groupBy select.projection select.groupBy] else []) ++
        select.selection.toList.map .selection) chosen := by
  cases shape with
  | @aggregated havings selections tables exprs groups aggregates some having grouped selected _ =>
    cases present : select.groupBy.isPresent with
    | true =>
      rw [if_pos rfl]
      refine ⟨havings ++ [.aggregate groups aggregates] ++ selections, ?_,
        List.rel_append (List.rel_append having (.cons grouped .nil)) selected⟩
      rw [List.append_assoc]
      exact (List.Sublist.refl _).append (.cons _ (.cons_cons _ (List.sublist_append_left _ _)))
    | false =>
      refine ⟨havings ++ [] ++ selections, ?_, List.rel_append (List.rel_append having .nil) selected⟩
      rw [List.append_nil]
      exact (List.Sublist.refl _).append (.cons _ (.cons _ (List.sublist_append_left _ _)))
  | @plain selections tables exprs none selected _ =>
    have noHaving : select.having = Option.none := by
      by_contra some
      exact none (supported.having some)
    have noGroups : select.groupBy.isPresent = false := by
      by_contra present
      exact none (aggregated_of_present (fun modifiers all => (supported.groups modifiers all).2)
        (Bool.eq_true_of_not_eq_false present))
    refine ⟨selections, .cons _ (List.sublist_append_left _ _), ?_⟩
    simpa [noHaving, noGroups] using selected

variable {operators : List (PlanOperator F)}

omit [FloatOps F] in
theorem operators_of_supported {limits sorts rest : List (PlanOperator F)}
    (shape : operators = limits ++ sorts ++ rest)
    (limited : List.Forall₂ Represents (query.limitClause.toList.map .limit) limits)
    (sorted : List.Forall₂ Represents (query.orderBy.toList.map .orderBy) sorts)
    (selected : SelectOperators select rest) (supported : Supported F query select) :
    ∃ chosen : List (PlanOperator F), chosen.Subperm operators ∧
      List.Forall₂ Represents (query.clauses select) chosen := by
  obtain ⟨chosen, within, represents⟩ := selected.chosen supported
  refine ⟨limits ++ sorts ++ chosen, ?_, ?_⟩
  · rw [shape]
    exact ((List.Sublist.refl _).append within).subperm
  · have all := List.rel_append (List.rel_append limited sorted) represents
    simpa [Query.clauses, supported.fetch, supported.top, supported.qualify] using all

theorem count_clauses (query : Query) (select : Select) (kind : OperatorClass) :
    ((query.clauses select).map Clause.kind).count kind =
      (if .limit = kind then
        query.limitClause.toList.length + query.fetch.toList.length + select.top.toList.length else 0) +
      (if .sort = kind then query.orderBy.toList.length else 0) +
      (if .filter = kind then
        select.qualify.toList.length + select.having.toList.length + select.selection.toList.length
        else 0) +
      (if .aggregate = kind ∧ select.groupBy.isPresent = true then 1 else 0) := by
  simp only [Query.clauses, List.map_append, List.count_append]
  rw [count_clause _ Clause.limit kind .limit fun _ => rfl,
    count_clause _ Clause.fetch kind .limit fun _ => rfl,
    count_clause _ Clause.top kind .limit fun _ => rfl,
    count_clause _ Clause.orderBy kind .sort fun _ => rfl,
    count_clause _ Clause.qualify kind .filter fun _ => rfl,
    count_clause _ Clause.having kind .filter fun _ => rfl,
    count_clause _ Clause.selection kind .filter fun _ => rfl]
  cases select.groupBy.isPresent <;> cases kind <;> simp [Clause.kind]

omit [FloatOps F] in
theorem SelectOperators.counts (shape : SelectOperators select operators) :
    countKind .limit operators = 0 ∧
      (Aggregated F select ∧ countKind .aggregate operators = 1 ∧
          countKind .filter operators = select.having.toList.length + select.selection.toList.length ∨
        ¬Aggregated F select ∧ countKind .aggregate operators = 0 ∧
          countKind .filter operators = select.selection.toList.length) := by
  cases shape with
  | aggregated some having grouped selected scanned =>
    have having (kind : OperatorClass) := (countKind_represents having kind).trans
      (count_clause _ Clause.having kind .filter fun _ => rfl)
    have selected (kind : OperatorClass) := (countKind_represents selected kind).trans
      (count_clause _ Clause.selection kind .filter fun _ => rfl)
    have limits := @countKind_tables F _ scanned .limit nofun nofun
    have aggregates := @countKind_tables F _ scanned .aggregate nofun nofun
    have filters := @countKind_tables F _ scanned .filter nofun nofun
    refine ⟨?_, .inl ⟨some, ?_, ?_⟩⟩ <;>
      simp [having, selected, limits, aggregates, filters, PlanOperator.kind]
  | plain none selected scanned =>
    have selected (kind : OperatorClass) := (countKind_represents selected kind).trans
      (count_clause _ Clause.selection kind .filter fun _ => rfl)
    have limits := @countKind_tables F _ scanned .limit nofun nofun
    have aggregates := @countKind_tables F _ scanned .aggregate nofun nofun
    have filters := @countKind_tables F _ scanned .filter nofun nofun
    refine ⟨?_, .inr ⟨none, ?_, ?_⟩⟩ <;>
      simp [selected, limits, aggregates, filters, PlanOperator.kind]

omit [FloatOps F] in
theorem supported_of_operators {limits sorts rest chosen : List (PlanOperator F)}
    (shape : operators = limits ++ sorts ++ rest)
    (limited : List.Forall₂ Represents (query.limitClause.toList.map .limit) limits)
    (sorted : List.Forall₂ Represents (query.orderBy.toList.map .orderBy) sorts)
    (selected : SelectOperators select rest) (within : chosen.Subperm operators)
    (represents : List.Forall₂ Represents (query.clauses select) chosen) :
    query.fetch = none ∧ select.top = none ∧ select.qualify = none ∧
      (select.having ≠ none → Aggregated F select) ∧
      ∀ modifiers, select.groupBy = .all modifiers → select.projection ≠ [] := by
  have fewer (kind : OperatorClass) :
      ((query.clauses select).map Clause.kind).count kind ≤
        (if .limit = kind then query.limitClause.toList.length else 0) +
        (if .sort = kind then query.orderBy.toList.length else 0) + countKind kind rest := by
    rw [← countKind_represents represents, ← count_clause _ Clause.limit kind .limit fun _ => rfl,
      ← count_clause _ Clause.orderBy kind .sort fun _ => rfl, ← countKind_represents limited,
      ← countKind_represents sorted, ← countKind_append, ← countKind_append, ← shape]
    exact countKind_le within kind
  have limit := fewer .limit
  have filter := fewer .filter
  have aggregate := fewer .aggregate
  simp only [count_clauses, reduceCtorEq, if_true, if_false, false_and, true_and, Nat.add_zero,
    Nat.zero_add] at limit filter aggregate
  have absent {α : Type} {value : Option α} (zero : value.toList.length = 0) : value = none := by
    cases value with
    | none => rfl
    | some => simp at zero
  obtain ⟨noLimit, aggregated | plain⟩ := selected.counts
  · obtain ⟨some, _, filters⟩ := aggregated
    refine ⟨absent (by omega), absent (by omega), absent (by omega), fun _ => some, ?_⟩
    intro modifiers all
    rcases some with ⟨_, _, _, grouped⟩ | ⟨_, _, items⟩ | ⟨item, member, _⟩
    · exact nomatch all.symm.trans grouped
    · exact items
    · exact List.ne_nil_of_mem member
  · obtain ⟨_, aggregates, filters⟩ := plain
    have having : select.having = none := absent (by omega)
    have groups : select.groupBy.isPresent = false := by
      by_contra present
      rw [if_pos (Bool.eq_true_of_not_eq_false present)] at aggregate
      omega
    refine ⟨absent (by omega), absent (by omega), absent (by omega), fun some => absurd having some, ?_⟩
    intro modifiers all
    simp [all, GroupByExpr.isPresent] at groups

theorem planQuery_unmodified (catalog : Catalog F) (query : Query) (select : Select)
    (body : query.body = .select select) (all : select.groupBy = .all true) :
    planQuery catalog { query with body := .select { select with groupBy := .all false } } =
      planQuery catalog query := by
  have same : planSelect catalog { select with groupBy := .all false } = planSelect catalog select := by
    unfold planSelect
    simp only [all, groupExprs]
  simp only [planQuery, body, same]

theorem planQuery_plain (catalog : Catalog F) (query : Query) (select : Select)
    (body : query.body = .select select) :
    planQuery catalog { query with body := .select select.plain } = planQuery catalog query := by
  have items : select.plain.projection.mapM (fun item =>
      liftM (selectItem item : Except SparkXError (Expr F)) : SelectItem → Except Fault (Expr F)) =
      select.projection.mapM fun item => liftM (selectItem item : Except SparkXError (Expr F)) := by
    rw [Select.plain, List.mapM_map]
    congr 1
    funext item
    cases item <;> rfl
  have same : planSelect catalog select.plain = planSelect catalog select := by
    simp only [planSelect, items]
    rfl
  simp only [planQuery, body, same]

theorem clauses_represented_iff {catalog : Catalog F} {plan : LogicalPlan F}
    (body : query.body = .select select) (planned : planQuery catalog query = .ok plan) :
    ClausesRepresented catalog query select plan ↔ Supported F query select := by
  obtain ⟨limits, sorts, rest, shape, limited, sorted, selected⟩ := planQuery_operators body planned
  constructor
  · intro represented
    obtain ⟨chosen, within, represents⟩ := represented.operators
    obtain ⟨fetch, top, qualify, having, groups⟩ :=
      supported_of_operators shape limited sorted selected within represents
    refine ⟨fetch, top, qualify, ?_, having, ?_⟩
    · intro item member
      by_contra options
      refine represented.options ⟨item, member, Bool.eq_true_of_not_eq_false options⟩ ?_
      rw [planQuery_plain catalog query select body, planned]
    · intro modifiers all
      refine ⟨?_, groups modifiers all⟩
      by_contra modified
      rw [Bool.eq_true_of_not_eq_false modified] at all
      refine represented.modifiers all ?_
      rw [planQuery_unmodified catalog query select body all, planned]
  · intro supported
    refine ⟨operators_of_supported shape limited sorted selected supported, ?_, ?_⟩
    · intro ⟨item, member, options⟩
      exact nomatch options.symm.trans (supported.options item member)
    · intro all
      exact nomatch (supported.groups true all).1

end

-- `SELECT l.a FROM l`
def selectA : Select :=
  { projection := [.unnamedExpr columnA], fromClause := [{ relation := .table "l" none false, joins := [] }] }

def whereNull : Select := { selectA with selection := some (.isNull columnA) }

def havingNull : Select := { selectA with having := some (.isNull columnA) }

theorem clauses_represented_of_where :
    ∃ plan, planQuery twoTables { body := .select whereNull } = .ok plan ∧
      ClausesRepresented twoTables { body := .select whereNull } whereNull plan := by
  refine ⟨_, rfl, (clauses_represented_iff rfl rfl).mpr ⟨rfl, rfl, rfl, ?_, nofun, nofun⟩⟩
  simp [whereNull, selectA, SelectItem.hasOptions]

theorem having_is_dropped :
    ∃ plan, planQuery twoTables { body := .select havingNull } = .ok plan ∧
      ¬ClausesRepresented twoTables { body := .select havingNull } havingNull plan := by
  refine ⟨_, rfl, ?_⟩
  intro represented
  obtain ⟨chosen, within, represents⟩ := represented.operators
  have fewer := countKind_le within .filter
  rw [countKind_represents represents] at fewer
  exact absurd fewer (by decide)

end Session

end SparkX
