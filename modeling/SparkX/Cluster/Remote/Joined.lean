import SparkX.Cluster.Remote.Routing
import SparkX.Runtime.Joined

set_option autoImplicit false

namespace SparkX

open Rowwise

variable {F : Type} [ArrowKernels F] {format : RowFormat F}

-- The batches for one destination, from all tasks of a stage in the order of their partitions.
def gathered (outputs : List (List (Nat × List (RecordBatch F)))) (destination : Nat) : List (RecordBatch F) :=
  outputs.flatMap fun output => output[destination]?.elim [] (·.2)

-- A stage whose tasks route their batches by the columns that a join compares.
structure Shuffles (format : RowFormat F) (on : List (Expr F)) (schema : Schema) (exchange : HashExchange)
    (tasks : List (List (RecordBatch F))) (outputs : List (List (Nat × List (RecordBatch F)))) : Prop where
  sent : List.Forall₂ (fun batches output => repartition format schema batches exchange = .ok output) tasks outputs
  uniform : ∀ batch ∈ tasks.flatten, batch.schema = schema
  stored : HasTypes schema.types tasks.flatten
  keyed : ∀ row ∈ rowsOf tasks.flatten, keyIn on schema row = exchange.keyOf row

theorem keyedRows_uniform (on : List (Expr F)) {schema : Schema} {batches : List (RecordBatch F)}
    (uniform : ∀ batch ∈ batches, batch.schema = schema) :
    keyedRows on batches = (rowsOf batches).map (keyedRow on schema) := by
  rw [keyedRows, rowsOf, List.map_flatMap]
  exact List.flatMap_congr fun batch member => by rw [uniform batch member]

variable {on : List (Expr F)} {schema : Schema} {exchange : HashExchange}

theorem Shuffles.gathered_eq {tasks : List (List (RecordBatch F))}
    {outputs : List (List (Nat × List (RecordBatch F)))}
    (side : Shuffles format on schema exchange tasks outputs) {destination : Nat}
    (inside : destination < exchange.partitionCount.val) :
    HasTypes schema.types (gathered outputs destination) ∧
      keyedRows on (gathered outputs destination) = (keyedRows on tasks.flatten).filter fun keyed =>
        format.destination (exchange.keyTypes schema) exchange.partitionCount keyed.key = destination := by
  have whole : (∀ batch ∈ gathered outputs destination, batch.schema = schema) ∧
      rowsOf (gathered outputs destination) =
        (rowsOf tasks.flatten).filter (exchange.destination format schema · = destination) := by
    have sent := side.sent
    -- The induction is on the tasks of the stage, each of which routes its own batches.
    clear side
    induction sent with
    | nil => exact ⟨by simp [gathered], rfl⟩
    | cons here _ ih =>
      obtain ⟨entry, found, _, schemas, rows⟩ :=
        forall₂_getElem? (repartition_routed here) (List.getElem?_range inside)
      simp only [gathered, List.flatMap_cons, found, Option.elim_some, List.flatten_cons, rowsOf_append,
        List.filter_append, List.forall_mem_append] at ih ⊢
      exact ⟨⟨schemas, ih.1⟩, by rw [rows, ih.2]⟩
  obtain ⟨schemas, rows⟩ := whole
  refine ⟨fun batch member => ⟨congrArg Schema.types (schemas batch member), fun row inside => ?_⟩, ?_⟩
  · have present : row ∈ rowsOf (gathered outputs destination) := List.mem_flatMap.mpr ⟨batch, member, inside⟩
    rw [rows] at present
    obtain ⟨source, listed, here⟩ := List.mem_flatMap.mp (List.mem_filter.mp present).1
    exact (side.stored source listed).2 row here
  · rw [keyedRows_uniform on schemas, keyedRows_uniform on side.uniform, rows, List.filter_map]
    refine congrArg (List.map _) (List.filter_congr fun row member => ?_)
    rw [HashExchange.destination, ← side.keyed row member]
    rfl

theorem join_by_destination {leftOn rightOn : List (Expr F)} {leftSchema rightSchema : Schema}
    {leftExchange rightExchange : HashExchange} {lefts rights : List (List (RecordBatch F))}
    {leftOutputs rightOutputs : List (List (Nat × List (RecordBatch F)))} {joinType : JoinType}
    {parts : List (RecordBatch F)} {output : RecordBatch F}
    (left : Shuffles format leftOn leftSchema leftExchange lefts leftOutputs)
    (right : Shuffles format rightOn rightSchema rightExchange rights rightOutputs)
    (counts : leftExchange.partitionCount = rightExchange.partitionCount)
    (types : leftExchange.keyTypes leftSchema = rightExchange.keyTypes rightSchema)
    (declared : schema.types = leftSchema.types ++ rightSchema.types) (nonzero : leftExchange.partitionCount ≠ 0)
    (native : hashJoin lefts.flatten rights.flatten joinType leftOn rightOn schema = .ok output)
    (tasks : List.Forall₂ (fun destination part => hashJoin (gathered leftOutputs destination)
        (gathered rightOutputs destination) joinType leftOn rightOn schema = .ok part)
      (List.range leftExchange.partitionCount.val) parts) :
    (rowsOf parts).Perm output.rows := by
  let label (keyed : KeyedRow F) : Nat :=
    format.destination (leftExchange.keyTypes leftSchema) leftExchange.partitionCount keyed.key
  -- Each task joins the rows with one label, and rows that a join brings together have the same key.
  have each : List.Forall₂ (fun destination rows => probed joinType rightSchema.types.length
        ((keyedRows leftOn lefts.flatten).filter (label · = destination))
        ((keyedRows rightOn rights.flatten).filter (label · = destination)) = rows)
      (List.range leftExchange.partitionCount.val) (parts.map (·.rows)) := by
    refine List.forall₂_map_right_iff.mpr (forall₂_imp_mem (fun destination part member joined => ?_) tasks)
    have inside := List.mem_range.mp member
    obtain ⟨hereStored, here⟩ := left.gathered_eq inside
    obtain ⟨thereStored, there⟩ := right.gathered_eq (counts ▸ inside)
    rw [← types, ← counts] at there
    rw [(hashJoin_rows joined hereStored thereStored declared).2.1, here, there]
  rw [(hashJoin_rows native left.stored right.stored declared).2.1, rowsOf, List.flatMap_def,
    forall₂_eq.mp each, ← List.flatMap_def]
  refine NestedLoop.join_labelled (fun keyed _ => Nat.mod_lt _ ?_) fun one _ other _ found => ?_
  · exact Nat.pos_of_ne_zero fun zero => nonzero (Fin.ext zero)
  · simp only [KeyedRow.finds, Bool.and_eq_true, decide_eq_true_eq] at found
    exact congrArg (format.destination _ _) found.1.1

namespace JoinSample

-- The key 1 goes to the first of two destinations and every other key to the second.
def twoWays : RowFormat ℚ := ⟨fun _ key => key.map fun value => if value = .uint32 1 then 55 else 0⟩

def lefts : List (List (RecordBatch ℚ)) := [[left.take [0, 1]], [left.take [2]]]

def rights : List (List (RecordBatch ℚ)) := [[right.take [0]], [right.take [1, 2]]]

theorem shuffles_lefts : Shuffles twoWays [.column "k"] left.schema ⟨[0], 2⟩ lefts
    [[(0, [left.take [0]]), (1, [left.take [1]])], [(0, []), (1, [left.take [2]])]] :=
  have uniform : ∀ batch ∈ lefts.flatten, batch.schema = left.schema := by decide
  ⟨.cons rfl (.cons rfl .nil), uniform, hasTypes _ uniform, by decide +kernel⟩

theorem shuffles_rights : Shuffles twoWays [.column "k"] right.schema ⟨[1], 2⟩ rights
    [[(0, [right.take [0]]), (1, [])], [(0, [right.take [2]]), (1, [right.take [1]])]] :=
  have uniform : ∀ batch ∈ rights.flatten, batch.schema = right.schema := by decide
  ⟨.cons rfl (.cons rfl .nil), uniform, hasTypes _ uniform, by decide +kernel⟩

def joins (left right : List (RecordBatch ℚ)) : Except Fault (RecordBatch ℚ) :=
  hashJoin left right .left [.column "k"] [.column "k"] output

end JoinSample

open JoinSample in
theorem join_by_destination_sample : ∃ first second joined,
    joins [left.take [0]] [right.take [0], right.take [2]] = .ok first ∧
      joins [left.take [1], left.take [2]] [right.take [1]] = .ok second ∧
      joins lefts.flatten rights.flatten = .ok joined ∧
      first.rows.length = 2 ∧ second.rows.length = 2 ∧ (first.rows ++ second.rows).Perm joined.rows := by
  have succeeds {left right : List (RecordBatch ℚ)} {count : Nat}
      (found : (joins left right).toOption.map (·.rows.length) = some count) :
      ∃ batch, joins left right = .ok batch ∧ batch.rows.length = count := by
    obtain ⟨batch, found, counted⟩ := Option.map_eq_some_iff.mp found
    exact ⟨batch, Operator.toOption_eq_some.mp found, counted⟩
  obtain ⟨first, firstJoined, two⟩ := @succeeds [left.take [0]] [right.take [0], right.take [2]] 2 (by decide +kernel)
  obtain ⟨second, secondJoined, others⟩ :=
    @succeeds [left.take [1], left.take [2]] [right.take [1]] 2 (by decide +kernel)
  obtain ⟨joined, native, _⟩ := @succeeds lefts.flatten rights.flatten 4 (by decide +kernel)
  have rows := join_by_destination shuffles_lefts shuffles_rights rfl rfl rfl (by decide) native
    (.cons firstJoined (.cons secondJoined .nil))
  rw [rowsOf, List.flatMap_cons, List.flatMap_singleton] at rows
  exact ⟨first, second, joined, firstJoined, secondJoined, native, two, others, rows⟩

end SparkX
