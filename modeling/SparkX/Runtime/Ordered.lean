import SparkX.Query.Planner
import SparkX.Runtime.Exact
import SparkX.Runtime.Streams

set_option autoImplicit false

namespace SparkX

open Rowwise

variable {F : Type} [ArrowKernels F]

-- What Arrow's documentation says about `lexsort_to_indices`: it lists the rows in order, and with a
-- limit that many of them, none of which comes after one that it leaves out. Which of several rows
-- with equal keys it lists, and in which order, is not said.
structure ArrowKernels.Sorts (F : Type) [ArrowKernels F] : Prop where
  ordered : ∀ (columns : List (SortColumn F)) numRows limit,
    (ArrowKernels.sortIndices columns numRows limit).Pairwise (compareRows columns · · ≠ .gt)
  selects : ∀ (columns : List (SortColumn F)) numRows count, ∃ others,
    (ArrowKernels.sortIndices columns numRows (some count) ++ others).Perm (List.range numRows) ∧
      (ArrowKernels.sortIndices columns numRows (some count)).length = min count numRows ∧
      ∀ chosen ∈ ArrowKernels.sortIndices columns numRows (some count), ∀ other ∈ others,
        compareRows columns chosen other ≠ .gt

section

variable [OrderedFloats F]

abbrev SortKey := ℕ ×ₗ Rank ×ₗ Rankᵒᵈ

-- Where a sort places a value: the nulls at one end, the others by their rank or against it.
def sortKey (descending nullsFirst : Bool) (value : Value F) : SortKey :=
  let none := (Value.null : Value F).rank
  toLex (if value.isNull then if nullsFirst then 0 else 2 else 1,
    toLex (if descending then none else value.rank, .toDual (if descending then value.rank else none)))

def sortKeys (exprs : List (SortExpr F)) (schema : Schema) (row : Row F) : List SortKey :=
  exprs.map fun sort =>
    sortKey (!sort.ascending) sort.nullsFirst ((sort.expr.valueIn schema row).getD .null)

structure Sorted (exprs : List (SortExpr F)) (schema : Schema) (batches : List (RecordBatch F))
    (output : RecordBatch F) : Prop where
  schema_eq : output.schema = schema
  rows_perm : output.rows.Perm ((rowsOf batches).map (·.take schema.fields.length))
  ordered : output.rows.Pairwise (sortKeys exprs schema · ≤ sortKeys exprs schema ·)

def SortColumn.keyAt (column : SortColumn F) (index : Nat) : SortKey :=
  sortKey column.descending column.nullsFirst (column.values.values.getD index .null)

theorem order_toDual {α : Type} [LinearOrder α] (left right : α) :
    order (OrderDual.toDual left) (OrderDual.toDual right) = order right left := cmp_toDual left right

theorem SortColumn.compareAt_eq_key (column : SortColumn F) (first second : Nat) :
    column.compareAt first second = order (column.keyAt first) (column.keyAt second) := by
  have typed (index : Nat) :
      (column.values.values.getD index .null).hasType column.values.dataType = true := by
    by_cases inside : index < column.values.values.length
    · rw [List.getD_eq_getElem _ _ inside]
      exact column.values.typed _ (List.getElem_mem inside)
    · rw [List.getD_eq_default _ _ (by omega)]
      exact Value.hasType_null _
  have ranks := Value.compare_eq_rank (typed first) (typed second)
  have back := Value.compare_eq_rank (typed second) (typed first)
  simp only [compareAt, keyAt, sortKey, order_toLex, order_toDual]
  generalize column.values.values.getD first .null = left at ranks back ⊢
  generalize column.values.values.getD second .null = right at ranks back ⊢
  -- Two nulls tie, a null stands at its end, and other values are told apart by their ranks alone.
  cases leftNull : left.isNull <;> cases rightNull : right.isNull
  · cases column.descending <;> simp [ranks, back]
  · cases column.nullsFirst <;> rfl
  · cases column.nullsFirst <;> rfl
  · have only {value : Value F} (none : value.isNull = true) : value = .null := by
      cases value <;> first | rfl | cases none
    simp [only leftNull, only rightNull]

theorem compareRows_eq_keys (columns : List (SortColumn F)) (first second : Nat) :
    compareRows columns first second =
      order (columns.map (·.keyAt first)) (columns.map (·.keyAt second)) := by
  induction columns with
  | nil => exact (order_self _).symm
  | cons column rest ih =>
    rw [List.map_cons, List.map_cons, order_cons, ← ih, ← column.compareAt_eq_key]
    rfl

theorem compareRows_le (columns : List (SortColumn F)) (first second : Nat) :
    compareRows columns first second ≠ .gt ↔ columns.map (·.keyAt first) ≤ columns.map (·.keyAt second) := by
  rw [compareRows_eq_keys, ne_eq, order_eq_gt, not_lt]

end

variable {exprs : List (SortExpr F)} {schema : Schema} {batches : List (RecordBatch F)} {count : Nat}

-- What `execute_sort` and `execute_topk` have in common: the batch and the columns that they sort by.
def sortInput (exprs : List (SortExpr F)) (schema : Schema) (batches : List (RecordBatch F)) :
    Except Fault (RecordBatch F × List (SortColumn F)) := do
  let batch ← RecordBatch.concatBatches schema batches
  let columns ← exprs.mapM (sortColumn · batch)
  let _ ← lexsortToIndices columns batch.numRows none
  return (batch, columns)

theorem sortBatches_eq (limit : Option Nat) (nonempty : batches ≠ []) (positive : limit ≠ some 0) :
    sortBatches exprs limit schema batches = (fun input => input.1.take (ArrowKernels.sortIndices input.2
      input.1.numRows (limit.map (min · input.1.numRows)))) <$> sortInput exprs schema batches := by
  rw [sortBatches, if_neg (by simp [nonempty, positive])]
  simp only [sortInput, map_bind, map_pure]
  refine bind_congr fun batch => bind_congr fun columns => ?_
  -- The checks of the columns do not look at the limit.
  unfold lexsortToIndices rejectIf
  split
  · rfl
  · split <;> rfl

section

variable [OrderedFloats F] {batch : RecordBatch F} {columns : List (SortColumn F)}

-- The keys of the columns at a position are the keys of the row there.
theorem keyAt_eq_sortKeys (evaluated : exprs.mapM (sortColumn · batch) = .ok columns) {index : Nat}
    {row : Row F} (found : batch.rows[index]? = some row) :
    columns.map (·.keyAt index) = sortKeys exprs batch.schema row := by
  rw [sortKeys, ← List.forall₂_eq_eq_eq, List.forall₂_map_left_iff, List.forall₂_map_right_iff]
  refine ((mapM_ok.mp evaluated).imp fun sort column done => ?_).flip
  obtain ⟨array, computed, made⟩ := bind_ok.mp done
  obtain rfl := pure_eq_ok.mp made
  obtain ⟨value, here, valued⟩ := forall₂_getElem? (evaluate_eq_ok.mp computed).2 found
  simp only [flip, SortColumn.keyAt, List.getD_eq_getElem?_getD, here, valued, Option.getD_some]

theorem take_sortKeys (evaluated : exprs.mapM (sortColumn · batch) = .ok columns) {indices : List Nat}
    (inside : ∀ index ∈ indices, index < batch.numRows) :
    (batch.take indices).rows.map (sortKeys exprs batch.schema) =
      indices.map fun index => columns.map (·.keyAt index) := by
  have present {index : Nat} (member : index ∈ indices) : batch.rows[index]? = some (batch.rows.getD index []) := by
    rw [List.getD_eq_getElem?_getD, List.getElem?_eq_getElem (inside index member), Option.getD_some]
  have rows : (batch.take indices).rows = indices.map (batch.rows.getD · []) := by
    change indices.filterMap (batch.rows[·]?) = _
    rw [List.filterMap_congr fun index member => present member, List.filterMap_eq_map']
  rw [rows, List.map_map]
  exact List.map_congr_left fun index member => (keyAt_eq_sortKeys evaluated (present member)).symm

end

theorem sortInput_ok {batch : RecordBatch F} {columns : List (SortColumn F)}
    (done : sortInput exprs schema batches = .ok (batch, columns)) :
    exprs.mapM (sortColumn · batch) = .ok columns ∧ batch.schema = schema ∧
      batch.rows = (rowsOf batches).map (·.take schema.fields.length) := by
  simp only [sortInput, bind_ok, lift_ok, pure_eq_ok, Prod.mk.injEq] at done
  obtain ⟨_, concatenated, _, evaluated, _, _, rfl, rfl⟩ := done
  obtain ⟨_, rfl, rows⟩ := RecordBatch.concatBatches_ok.mp concatenated
  exact ⟨evaluated, rfl, rows⟩

theorem sortBatches_sorted [OrderedFloats F] (sorts : ArrowKernels.Sorts F) {output : RecordBatch F}
    (sorted : sortBatches exprs none schema batches = .ok output) : Sorted exprs schema batches output := by
  by_cases empty : batches = []
  · subst empty
    cases sorted
    exact ⟨rfl, .refl _, .nil⟩
  rw [sortBatches_eq none empty nofun, map_eq_ok] at sorted
  obtain ⟨⟨batch, columns⟩, done, rfl⟩ := sorted
  obtain ⟨evaluated, rfl, rows⟩ := sortInput_ok done
  have all := ArrowKernels.sortIndices_perm columns batch.numRows
  refine ⟨rfl, rows ▸ take_rows_perm batch all, List.pairwise_map.mp ?_⟩
  dsimp only [Option.map_none]
  rw [take_sortKeys evaluated fun index member => List.mem_range.mp (all.mem_iff.mp member), List.pairwise_map]
  exact (sorts.ordered columns batch.numRows none).imp fun before => (compareRows_le columns _ _).mp before

theorem sortBatches_selects [OrderedFloats F] (sorts : ArrowKernels.Sorts F) (exprs : List (SortExpr F))
    (schema : Schema) (batches : List (RecordBatch F)) (positive : 0 < count) :
    (∃ fault, sortBatches exprs (some count) schema batches = .error fault ∧
      sortBatches exprs none schema batches = .error fault) ∨
    ∃ selected sorted, sortBatches exprs (some count) schema batches = .ok selected ∧
      sortBatches exprs none schema batches = .ok sorted ∧
      selected.rows.map (sortKeys exprs schema) = (sorted.rows.map (sortKeys exprs schema)).take count ∧
      selected.rows.Subperm ((rowsOf batches).map (·.take schema.fields.length)) := by
  by_cases empty : batches = []
  · subst empty
    exact .inr ⟨.newEmpty schema, .newEmpty schema, rfl, rfl, List.take_nil.symm, List.nil_subperm⟩
  rw [sortBatches_eq (some count) empty (by simpa using positive.ne'), sortBatches_eq none empty nofun]
  cases done : sortInput exprs schema batches with
  | error fault => exact .inl ⟨fault, rfl, rfl⟩
  | ok input =>
    obtain ⟨batch, columns⟩ := input
    refine .inr ⟨_, _, rfl, rfl, ?_⟩
    obtain ⟨evaluated, rfl, rows⟩ := sortInput_ok done
    have all := ArrowKernels.sortIndices_perm columns batch.numRows
    obtain ⟨others, split, length, first⟩ := sorts.selects columns batch.numRows (min count batch.numRows)
    simp only [Option.map_some, Option.map_none]
    constructor
    · have inside : ∀ index ∈ ArrowKernels.sortIndices columns batch.numRows (some (min count batch.numRows)),
          index < batch.numRows := fun index member =>
        List.mem_range.mp (split.mem_iff.mp (List.mem_append_left _ member))
      rw [take_sortKeys evaluated inside,
        take_sortKeys evaluated fun index member => List.mem_range.mp (all.mem_iff.mp member),
        Grouping.take_ranked (split.trans all.symm)
          ((sorts.ordered _ _ _).imp fun before => (compareRows_le columns _ _).mp before)
          ((sorts.ordered _ _ _).imp fun before => (compareRows_le columns _ _).mp before)
          fun one here other there => (compareRows_le columns _ _).mp (first one here other there), length]
      have whole := all.length_eq.trans List.length_range
      simp [List.take_eq_take_iff, whole]
    · rw [← rows]
      refine List.Subperm.trans (List.Sublist.subperm ?_) (take_rows_perm batch split).subperm
      exact (List.sublist_append_left _ others).filterMap (batch.rows[·]?)

omit [ArrowKernels F] in
theorem executeLimit_append (count : Nat) (before : List (RecordBatch F)) (rest : BatchStream F) :
    ∃ outputs, executeLimit count (before.map .ok ++ rest) =
        outputs.map .ok ++ executeLimit (count - (rowsOf before).length) rest ∧
      rowsOf outputs = (rowsOf before).take count ∧ ∀ output ∈ outputs, output.rows ≠ [] := by
  induction before generalizing count with
  | nil => exact ⟨[], rfl, by simp, by simp⟩
  | cons batch later ih =>
    -- `break` at zero: what is left of the stream, an error included, is never looked at.
    cases count with
    | zero => exact ⟨[], by simp [executeLimit], by simp, by simp⟩
    | succ count =>
      simp only [List.map_cons, List.cons_append, executeLimit, rowsOf_cons, List.length_append]
      have left : count + 1 - min (count + 1) batch.numRows = count + 1 - batch.rows.length := by
        rw [RecordBatch.numRows]
        omega
      split
      next none =>
        have empty : batch.rows = [] := List.length_eq_zero_iff.mp (by rw [RecordBatch.numRows] at none; omega)
        simpa [empty] using ih (count + 1)
      next some =>
        obtain ⟨outputs, limited, rows, full⟩ := ih (count + 1 - batch.rows.length)
        refine ⟨batch.slice (min (count + 1) batch.numRows) :: outputs, ?_, ?_, ?_⟩
        · rw [left, limited, Nat.sub_sub]
          rfl
        · rw [rowsOf_cons, rows, List.take_append]
          exact congrArg (· ++ _) List.take_eq_take_min.symm
        · refine List.forall_mem_cons.mpr ⟨fun none => some ?_, full⟩
          simpa [RecordBatch.slice, RecordBatch.select, RecordBatch.numRows] using none

omit [ArrowKernels F] in
theorem executeLimit_nil : executeLimit count ([] : BatchStream F) = [] := by
  cases count <;> rfl

theorem exact_sorts : ArrowKernels.Sorts ℚ := by
  have order (columns : List (SortColumn ℚ)) (numRows : Nat) :
      ((List.range numRows).insertionSort fun first second => compareRows columns first second ≠ .gt).Pairwise
        fun first second => compareRows columns first second ≠ .gt := by
    rw [Grouping.insertionSort_ranked fun first _ second _ => compareRows_le columns first second]
    refine (Grouping.pairwise_ranked (List.range numRows)).imp ?_
    exact fun {first second} before => (compareRows_le columns first second).mpr before
  refine ⟨fun columns numRows limit => ?_, fun columns numRows count => ?_⟩
  · cases limit with
    | none => exact order columns numRows
    | some count => exact (order columns numRows).sublist (List.take_sublist _ _)
  · have sorted := List.perm_insertionSort (fun first second => compareRows columns first second ≠ .gt)
      (List.range numRows)
    have split := order columns numRows
    rw [← List.take_append_drop count (List.insertionSort _ _)] at sorted split
    refine ⟨_, sorted, ?_, (List.pairwise_append.mp split).2.2⟩
    exact List.length_take.trans (congrArg (min count) ((List.length_insertionSort _ _).trans List.length_range))

namespace SortSample

def flagged : Schema := { fields := [⟨"k", .boolean, true, .empty⟩] }

def flags : RecordBatch ℚ :=
  { schema := flagged, rows := [[.boolean false], [.null], [.boolean true]], typed := by decide }

def table : MemoryTable ℚ := { schema := flagged, partitions := [[flags]], uniform := by decide }

def scan : PhysicalPlan ℚ := .scan 1 "t" table.provider none [] flagged

def byFlag : List (SortExpr ℚ) := [⟨.column "k", false, false⟩]

theorem execute_scan : execute (.inOrder ℚ) ⟨1, none⟩ scan = [flags].map .ok ++ [] := rfl

end SortSample

variable {schedule : Schedule F} {context : TaskContext} {input : PhysicalPlan F}

theorem sort_orders_rows [OrderedFloats F] (sorts : ArrowKernels.Sorts F) {source : Schema} (id : OperatorId)
    (collected : collect (execute schedule context input) = .ok batches)
    (uniform : ∀ batch ∈ batches, batch.schema = source)
    (wide : schema.fields.length ≤ source.fields.length) (fits : SortFits exprs schema source)
    (takes : ∀ row ∈ rowsOf batches, SortTakes exprs schema row) :
    ∃ output, execute schedule context (.sort id input exprs schema) = [.ok output] ∧
      Sorted exprs schema batches output := by
  have done : ∃ output, sortBatches exprs none schema batches = .ok output := by
    by_cases empty : batches = []
    · subst empty
      exact ⟨_, sortBatches_nil⟩
    · exact exists_sortBatches empty uniform wide fits takes
  obtain ⟨output, sorted⟩ := done
  refine ⟨output, ?_, sortBatches_sorted sorts sorted⟩
  rw [execute, executeSort, collected]
  exact congrArg respond sorted

open SortSample in
theorem sort_orders_flags :
    ∃ output, execute (.inOrder ℚ) ⟨1, none⟩ (.sort 0 scan byFlag flagged) = [.ok output] ∧
      Sorted byFlag flagged [flags] output := by
  have admitted : ∀ row ∈ rowsOf [flags], flagged.admits (row.take flagged.fields.length) := by decide
  refine sort_orders_rows exact_sorts 0 (collect_ok.mpr execute_scan) (by simp [flags]) le_rfl ⟨rfl, by simp [byFlag], ?_⟩ ?_
  · intro sort member
    rw [List.mem_singleton.mp member]
    exact ⟨.boolean, rfl, rfl⟩
  · intro row member
    refine ⟨admitted row member, fun sort listed => ?_⟩
    rw [List.mem_singleton.mp listed]
    exact ⟨_, rfl⟩

theorem limit_returns_first_rows {before : List (RecordBatch F)} {rest : BatchStream F} (id : OperatorId)
    (count : Nat) (received : execute schedule context input = before.map .ok ++ rest) :
    ∃ outputs, rowsOf outputs = (rowsOf before).take count ∧ (∀ output ∈ outputs, output.rows ≠ []) ∧
      (count ≤ (rowsOf before).length ∨ rest = [] →
        execute schedule context (.limit id input count schema) = outputs.map .ok) ∧
      ∀ error later, rest = .error error :: later → (rowsOf before).length < count →
        execute schedule context (.limit id input count schema) = outputs.map .ok ++ [.error error] := by
  obtain ⟨outputs, limited, rows, full⟩ := executeLimit_append count before rest
  refine ⟨outputs, rows, full, ?_, ?_⟩
  all_goals rw [execute, received, limited]
  · rintro (enough | rfl)
    · rw [Nat.sub_eq_zero_of_le enough, executeLimit, List.append_nil]
    · rw [executeLimit_nil, List.append_nil]
  · rintro error later rfl short
    obtain ⟨more, extra⟩ := Nat.exists_eq_succ_of_ne_zero (Nat.sub_ne_zero_of_lt short)
    rw [extra, executeLimit]

open SortSample in
theorem limit_returns_first_flags : ∃ outputs, rowsOf outputs = [[.boolean false], [.null]] ∧
    execute (.inOrder ℚ) ⟨1, none⟩ (.limit 0 scan 2 flagged) = outputs.map .ok := by
  obtain ⟨outputs, rows, _, limited, _⟩ := limit_returns_first_rows 0 2 execute_scan
  exact ⟨outputs, rows, limited (.inr rfl)⟩

-- A plan has the errors of a limit over a sort of `child`, and returns rows of `child` with the
-- keys of the rows that those return.
structure SelectsAsSorted [OrderedFloats F] (plan child : PhysicalPlan F) (exprs : List (SortExpr F))
    (count : Nat) (schema : Schema) : Prop where
  keys : ∀ schedule context sortId limitId,
    ((collect (execute schedule context plan)).map fun outputs =>
        (rowsOf outputs).map (sortKeys exprs schema)) =
      (collect (execute schedule context (.limit limitId (.sort sortId child exprs schema) count schema))).map
        fun outputs => (rowsOf outputs).map (sortKeys exprs schema)
  rows : ∀ schedule context output, .ok output ∈ execute schedule context plan →
    ∃ batches, collect (execute schedule context child) = .ok batches ∧
      output.rows.Subperm ((rowsOf batches).map (·.take schema.fields.length))

omit [ArrowKernels F] in
theorem respond_ok {result : Except Fault (RecordBatch F)} {output : RecordBatch F} :
    .ok output ∈ respond result ↔ result = .ok output := by
  cases result with
  | ok batch => simp [respond, eq_comm]
  | error fault => cases fault <;> simp [respond]

omit [ArrowKernels F] in
theorem limit_respond_error (positive : 0 < count) (fault : Fault) :
    executeLimit count (respond (.error fault) : BatchStream F) = respond (.error fault) := by
  obtain ⟨count, rfl⟩ := Nat.exists_eq_succ_of_ne_zero positive.ne'
  cases fault <;> rfl

omit [ArrowKernels F] in
theorem limit_respond_ok {γ : Type} {view : Row F → γ} {selected sorted : RecordBatch F}
    (same : selected.rows.map view = (sorted.rows.map view).take count) :
    ((collect (respond (.ok selected))).map fun outputs => (rowsOf outputs).map view) =
      (collect (executeLimit count (respond (.ok sorted)))).map fun outputs => (rowsOf outputs).map view := by
  obtain ⟨outputs, limited, rows, _⟩ := executeLimit_append count [sorted] []
  simp only [executeLimit_nil, List.append_nil] at limited
  change _ = (collect (executeLimit count ([sorted].map .ok))).map _
  rw [limited, collect_ok.mpr rfl]
  refine congrArg Except.ok ?_
  change (rowsOf [selected]).map view = (rowsOf outputs).map view
  rw [rows, List.map_take]
  simpa [rowsOf] using same

theorem fused_limit_selects [OrderedFloats F] (sorts : ArrowKernels.Sorts F) {catalog : Catalog F}
    {below : LogicalPlan F} {id next : OperatorId} {plan : PhysicalPlan F}
    (planned : PhysicalPlanner.build catalog (.limit (.sort below exprs schema) count schema) id =
      .ok (plan, next)) (positive : 0 < count) :
    ∃ first child, PhysicalPlanner.build catalog below first = .ok (child, next) ∧
      SelectsAsSorted plan child exprs count schema := by
  simp only [PhysicalPlanner.build, bind_ok, pure_eq_ok, Prod.exists, Prod.mk.injEq] at planned
  obtain ⟨first, _, child, _, built, rfl, rfl⟩ := planned
  refine ⟨first, child, built, ?_, ?_⟩
  · intro schedule context sortId limitId
    simp only [execute, executeTopk, executeSort]
    cases collected : collect (execute schedule context child) with
    | error error => exact congrArg (fun stream => (collect stream).map _) (limit_respond_error positive _).symm
    | ok batches =>
      rcases sortBatches_selects sorts exprs schema batches positive with
        ⟨fault, failed, sorting⟩ | ⟨selected, sorted, done, sorting, same, _⟩
      · change (collect (respond (sortBatches _ _ _ _))).map _ =
          (collect (executeLimit count (respond (sortBatches _ _ _ _)))).map _
        rw [failed, sorting, limit_respond_error positive]
      · change (collect (respond (sortBatches _ _ _ _))).map _ =
          (collect (executeLimit count (respond (sortBatches _ _ _ _)))).map _
        rw [done, sorting]
        exact limit_respond_ok same
  · intro schedule context output sent
    simp only [execute, executeTopk] at sent
    obtain ⟨batches, collected, selecting⟩ := bind_ok.mp (respond_ok.mp sent)
    refine ⟨batches, lift_ok.mp collected, ?_⟩
    rcases sortBatches_selects sorts exprs schema batches positive with
      ⟨fault, failed, _⟩ | ⟨selected, sorted, done, _, _, rows⟩
    · cases failed.symm.trans selecting
    · exact Except.ok.inj (done.symm.trans selecting) ▸ rows

open SortSample in
theorem fused_limit_selects_flags :
    ∃ child, SelectsAsSorted (.topK 0 scan byFlag 2 flagged) child byFlag 2 flagged := by
  have planned : PhysicalPlanner.build ⟨fun _ => some table.provider⟩
      (.limit (.sort (.scan "t" none [] flagged) byFlag flagged) 2 flagged) 0 =
        .ok (.topK 0 scan byFlag 2 flagged, 2) := rfl
  obtain ⟨_, child, _, selects⟩ := fused_limit_selects exact_sorts planned (by decide)
  exact ⟨child, selects⟩

end SparkX
