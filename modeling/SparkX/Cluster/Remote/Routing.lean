import SparkX.Cluster.Remote.Model
import SparkX.Runtime.Grouped

set_option autoImplicit false

namespace SparkX

open Rowwise

variable {F : Type}

namespace HashExchange

def keyOf (exchange : HashExchange) (row : Row F) : EncodedKey F :=
  exchange.columns.map (row.getD · .null)

def keyTypes (exchange : HashExchange) (schema : Schema) : List DataType :=
  exchange.columns.filterMap (schema.types[·]?)

def destination (exchange : HashExchange) (format : RowFormat F) (schema : Schema) (row : Row F) : Nat :=
  format.destination (exchange.keyTypes schema) exchange.partitionCount (exchange.keyOf row)

-- The checks at the start of `repartition`.
structure Valid (exchange : HashExchange) (schema : Schema) : Prop where
  destinations : exchange.partitionCount ≠ 0
  keys : exchange.columns ≠ []
  inside : ∀ column ∈ exchange.columns, column < schema.fields.length

variable {exchange : HashExchange} {schema : Schema}

theorem destination_lt (valid : exchange.Valid schema) (format : RowFormat F) (row : Row F) :
    exchange.destination format schema row < exchange.partitionCount.val := by
  refine Nat.mod_lt _ (Nat.pos_of_ne_zero fun zero => valid.destinations ?_)
  exact Fin.ext zero

theorem Valid.nonempty (valid : exchange.Valid schema) : schema.fields ≠ [] := by
  obtain ⟨column, member⟩ := List.exists_mem_of_ne_nil _ valid.keys
  have inside := valid.inside column member
  rintro none
  rw [none] at inside
  exact Nat.not_lt_zero _ inside

theorem Valid.keyTypes_found (valid : exchange.Valid schema) :
    List.Forall₂ (fun column dataType => schema.types[column]? = some dataType) exchange.columns
      (exchange.keyTypes schema) := by
  obtain ⟨columns, _⟩ := exchange
  have inside := valid.inside
  change List.Forall₂ _ columns (columns.filterMap (schema.types[·]?))
  change ∀ column ∈ columns, _ at inside
  clear valid
  induction columns with
  | nil => exact .nil
  | cons column rest ih =>
    have ⟨here, later⟩ := List.forall_mem_cons.mp inside
    have present : ∃ dataType, schema.types[column]? = some dataType := by
      rw [Schema.types, List.getElem?_map, List.getElem?_eq_getElem here]
      exact ⟨_, rfl⟩
    obtain ⟨dataType, present⟩ := present
    rw [List.filterMap_cons, present]
    exact .cons present (ih later)

end HashExchange

theorem tryNew_own {schema : Schema} {batch output : RecordBatch F} :
    RecordBatch.tryNew schema batch.columns = .ok output ↔
      schema.fields ≠ [] ∧ batch.schema.types = schema.types ∧ output.schema = schema ∧
        output.rows = batch.rows := by
  let sources : List (DataType × (Row F → Value F)) :=
    batch.schema.types.zipIdx.map fun entry => (entry.1, (·.getD entry.2 .null))
  have computed : List.Forall₂ (fun source (array : ArrayRef F) => array.dataType = source.1 ∧
      array.values = batch.rows.map source.2) sources batch.columns := by
    have width : batch.schema.fields.length = batch.schema.types.length := (List.length_map _).symm
    have each : ∀ index ∈ List.range batch.schema.fields.length, ∃ array, batch.column index = some array :=
      fun index member => RecordBatch.exists_column (List.mem_range.mp member)
    obtain ⟨arrays, found⟩ := forall₂_exists each
    have listed : batch.columns = arrays := by
      unfold RecordBatch.columns
      clear each
      generalize List.range batch.schema.fields.length = indices at found ⊢
      induction found with
      | nil => rfl
      | cons here _ ih => rw [List.filterMap_cons, here, ih]
    rw [listed]
    refine List.forall₂_iff_get.mpr ⟨?_, fun index first second => ?_⟩
    · rw [List.length_map, List.length_zipIdx, ← width, ← found.length_eq, List.length_range]
    · have here := (List.forall₂_iff_get.mp found).2 index (by simpa [sources, width] using first) second
      obtain ⟨typed, values⟩ := RecordBatch.column_eq_some.mp here
      simp only [List.get_eq_getElem, List.getElem_range] at typed values
      obtain ⟨_, typed⟩ := List.getElem?_eq_some_iff.mp typed
      simp only [sources, List.get_eq_getElem, List.getElem_map, List.getElem_zipIdx, Nat.zero_add]
      exact ⟨typed.symm, values⟩
  have types : sources.map (·.1) = batch.schema.types := by simp [sources, Function.comp_def]
  have rows : batch.rows.map (fun row => sources.map (·.2 row)) = batch.rows := by
    refine (List.map_congr_left fun row member => ?_).trans (List.map_id _)
    have full : row.length = batch.schema.types.length := by
      rw [Schema.types, List.length_map]
      exact (batch.typed row member).length_eq.symm
    refine List.ext_getElem (by simp [sources, full]) fun index first second => ?_
    have present : index < row.length := second
    simp [sources, List.getElem?_eq_getElem present]
  have some : batch.schema.types = schema.types → (sources ≠ [] ↔ schema.fields ≠ []) := by
    intro same
    rw [ne_eq, ← List.map_eq_nil_iff (f := Prod.fst), types, same, Schema.types, List.map_eq_nil_iff]
  rw [tryNew_columns computed, types, rows]
  grind

theorem filterMap_labelled {α : Type} (items : List α) (label : α → Nat) (wanted : Nat) :
    (((items.map label).zipIdx.filter (·.1 = wanted)).map (·.2)).filterMap (items[·]?) =
      items.filter (label · = wanted) := by
  have general (start : Nat) (before : List α) (size : before.length = start) :
      ((((items.map label).zipIdx start).filter (·.1 = wanted)).map (·.2)).filterMap
          ((before ++ items)[·]?) = items.filter (label · = wanted) := by
    induction items generalizing start before with
    | nil => rfl
    | cons item rest ih =>
      have later := ih (start + 1) (before ++ [item]) (by simp [size])
      rw [List.append_assoc, List.singleton_append] at later
      rw [List.map_cons, List.zipIdx_cons, List.filter_cons, List.filter_cons]
      by_cases here : label item = wanted
      · simp only [here, decide_true, if_true, List.map_cons, List.filterMap_cons]
        rw [List.getElem?_append_right (by omega), size, Nat.sub_self, later]
        rfl
      · simp only [here, decide_false, Bool.false_eq_true, if_false]
        exact later
  exact general 0 [] rfl

section

variable {format : RowFormat F} {schema : Schema} {exchange : HashExchange}

def Routed (format : RowFormat F) (schema : Schema) (exchange : HashExchange) (rows : List (Row F))
    (outputs : List (Nat × List (RecordBatch F))) : Prop :=
  List.Forall₂ (fun destination output => output.1 = destination ∧
      (∀ batch ∈ output.2, batch.schema = schema) ∧
      rowsOf output.2 = rows.filter (exchange.destination format schema · = destination))
    (List.range exchange.partitionCount.val) outputs

variable {batch : RecordBatch F} {outputs : List (Nat × List (RecordBatch F))}

theorem repartitionBatch_ok {next : List (Nat × List (RecordBatch F))} (valid : exchange.Valid schema) :
    repartitionBatch format schema exchange ⟨exchange.keyTypes schema⟩ outputs batch = .ok next ↔
      List.Forall₂ (fun column dataType => batch.schema.types[column]? = some dataType) exchange.columns
          (exchange.keyTypes schema) ∧
        List.Forall₂ (fun output new =>
          let rows := batch.rows.filter (exchange.destination format schema · = output.1)
          if rows = [] then output = new
          else batch.schema.types = schema.types ∧ ∃ piece : RecordBatch F, piece.schema = schema ∧
            piece.rows = rows ∧ (output.1, output.2 ++ [piece]) = new) outputs next := by
  have read := @selectedKeys_ok F exchange.columns (exchange.keyTypes schema) batch
  have peeled : repartitionBatch format schema exchange ⟨exchange.keyTypes schema⟩ outputs batch = .ok next ↔
      List.Forall₂ (fun column dataType => batch.schema.types[column]? = some dataType) exchange.columns
          (exchange.keyTypes schema) ∧
        outputs.mapM (fun output => do
          let indices := ((batch.rows.map (exchange.destination format schema)).zipIdx.filter
            (·.1 = output.1)).map (·.2)
          if indices = [] then return output
          else return (output.1, output.2 ++ [← RecordBatch.tryNew schema (batch.take indices).columns])) =
            (.ok next : Except Fault _) := by
    simp only [repartitionBatch, bind_ok, lift_ok]
    constructor
    · rintro ⟨columns, found, keys, encoded, done⟩
      obtain ⟨typed, rfl⟩ := read.mp ⟨columns, found, encoded⟩
      rw [List.map_map] at done
      exact ⟨typed, done⟩
    · rintro ⟨typed, done⟩
      obtain ⟨columns, found, encoded⟩ := read.mpr ⟨typed, rfl⟩
      refine ⟨columns, found, _, encoded, ?_⟩
      rw [List.map_map]
      exact done
  rw [peeled, mapM_ok]
  refine and_congr_right fun _ => iff_of_eq (congrFun (congrFun (congrArg _ ?_) _) _)
  funext output new
  have taken := filterMap_labelled batch.rows (exchange.destination format schema) output.1
  have none : ((batch.rows.map (exchange.destination format schema)).zipIdx.filter
      (·.1 = output.1)).map (·.2) = [] ↔
      batch.rows.filter (exchange.destination format schema · = output.1) = [] := by
    simp only [List.map_eq_nil_iff, List.filter_eq_nil_iff, List.mem_zipIdx_iff_getElem?, Prod.forall,
      List.getElem?_map, Option.map_eq_some_iff, decide_eq_true_eq]
    constructor
    · intro absent row member
      obtain ⟨index, here⟩ := List.mem_iff_getElem?.mp member
      exact absent _ index ⟨row, here, rfl⟩
    · rintro absent _ index ⟨row, here, rfl⟩
      exact absent row (List.mem_of_getElem? here)
  simp only [none]
  split
  next => simp only [pure_eq_ok]
  next =>
    simp only [bind_ok, lift_ok, pure_eq_ok, tryNew_own, eq_iff_iff, ← exists_and_left]
    refine exists_congr fun piece => ?_
    have own (indices : List Nat) : (batch.take indices).schema = batch.schema := rfl
    have rows (indices : List Nat) : (batch.take indices).rows = indices.filterMap (batch.rows[·]?) := rfl
    rw [own, rows, taken, and_iff_right valid.nonempty, and_assoc, and_assoc]

theorem repartitionBatch_routed {next : List (Nat × List (RecordBatch F))} (valid : exchange.Valid schema)
    {rows : List (Row F)} (routed : Routed format schema exchange rows outputs)
    (done : repartitionBatch format schema exchange ⟨exchange.keyTypes schema⟩ outputs batch = .ok next) :
    Routed format schema exchange (rows ++ batch.rows) next := by
  refine (forall₂_comp.mpr ⟨outputs, routed, ((repartitionBatch_ok valid).mp done).2⟩).imp ?_
  rintro destination new ⟨output, ⟨rfl, schemas, known⟩, here⟩
  rw [List.filter_append, ← known]
  dsimp only at here
  split at here
  next none =>
    obtain rfl := here
    rw [none, List.append_nil]
    exact ⟨rfl, schemas, rfl⟩
  next =>
    obtain ⟨_, piece, declared, rows, rfl⟩ := here
    refine ⟨rfl, fun batch member => ?_, by rw [rowsOf_append, ← rows]; simp⟩
    rcases List.mem_append.mp member with earlier | last
    · exact schemas batch earlier
    · rwa [List.mem_singleton.mp last]

theorem exists_repartitionBatch (outputs : List (Nat × List (RecordBatch F)))
    (valid : exchange.Valid schema) (types : batch.schema.types = schema.types)
    (admitted : ∀ row ∈ batch.rows, schema.admits row) :
    ∃ next, repartitionBatch format schema exchange ⟨exchange.keyTypes schema⟩ outputs batch = .ok next := by
  simp only [repartitionBatch_ok valid, exists_and_left]
  refine ⟨types ▸ valid.keyTypes_found, forall₂_exists fun output _ => ?_⟩
  split
  next => exact ⟨output, rfl⟩
  next =>
    exact ⟨_, types, ⟨schema, _, fun row member => admitted row (List.mem_filter.mp member).1⟩, rfl, rfl, rfl⟩

variable {batches : List (RecordBatch F)}

theorem repartition_valid (valid : exchange.Valid schema) :
    repartition format schema batches exchange =
      batches.foldlM (repartitionBatch format schema exchange ⟨exchange.keyTypes schema⟩)
        ((List.range exchange.partitionCount.val).map (·, [])) := by
  have passes : ¬(exchange.partitionCount = 0 ∨ exchange.columns = [] ∨
      ∃ column ∈ exchange.columns, schema.fields.length ≤ column) := by
    rintro (zero | none | ⟨column, member, outside⟩)
    · exact valid.destinations zero
    · exact valid.keys none
    · exact Nat.not_lt.mpr outside (valid.inside column member)
  rw [repartition, rejectIf_ok.mpr passes]
  rfl

theorem valid_of_repartition (done : repartition format schema batches exchange = .ok outputs) :
    exchange.Valid schema := by
  obtain ⟨checked, _⟩ := check_ok.mp done
  rw [rejectIf_ok, not_or, not_or] at checked
  obtain ⟨destinations, keys, inside⟩ := checked
  exact ⟨destinations, keys, fun column member => Nat.not_le.mp fun outside => inside ⟨column, member, outside⟩⟩

theorem routed_start (format : RowFormat F) (schema : Schema) (exchange : HashExchange) :
    Routed format schema exchange [] ((List.range exchange.partitionCount.val).map (·, [])) :=
  List.forall₂_map_right_iff.mpr (List.forall₂_same.mpr fun _ _ => ⟨rfl, nofun, rfl⟩)

theorem repartition_routed (done : repartition format schema batches exchange = .ok outputs) :
    Routed format schema exchange (rowsOf batches) outputs := by
  have valid := valid_of_repartition done
  rw [repartition_valid valid] at done
  refine foldlM_induct (fun seen state => Routed format schema exchange (rowsOf seen) state) ?_
    (routed_start format schema exchange) done
  intro seen batch state next routed stepped
  rw [rowsOf_append, rowsOf_cons, rowsOf_nil, List.append_nil]
  exact repartitionBatch_routed valid routed stepped

theorem exists_repartition (valid : exchange.Valid schema)
    (types : ∀ batch ∈ batches, batch.schema.types = schema.types)
    (admitted : ∀ batch ∈ batches, ∀ row ∈ batch.rows, schema.admits row) :
    ∃ outputs, repartition format schema batches exchange = .ok outputs := by
  rw [repartition_valid valid]
  have advances (seen rest : List (RecordBatch F)) (batch : RecordBatch F)
      (state : List (Nat × List (RecordBatch F))) (split : batches = seen ++ batch :: rest) :
      ∃ next, repartitionBatch format schema exchange ⟨exchange.keyTypes schema⟩ state batch = .ok next ∧ True := by
    have member : batch ∈ batches := by simp [split]
    obtain ⟨next, stepped⟩ := exists_repartitionBatch state valid (types batch member) (admitted batch member)
    exact ⟨next, stepped, trivial⟩
  obtain ⟨outputs, ran, _⟩ := Except.foldlM_total (fun _ _ => True) trivial
    fun seen batch rest state split _ => advances seen rest batch state split
  exact ⟨outputs, ran⟩

def ArrivesAt (outputs : List (Nat × List (RecordBatch F))) (row : Row F) (destination : Nat) : Prop :=
  ∃ output ∈ outputs, output.1 = destination ∧ row ∈ rowsOf output.2

section

variable {rows : List (Row F)} {outputs : List (Nat × List (RecordBatch F))}

theorem Routed.numbered (routed : Routed format schema exchange rows outputs) :
    outputs.map (·.1) = List.range exchange.partitionCount.val := by
  have numbers : List.Forall₂ (fun destination number => destination = number)
      (List.range exchange.partitionCount.val) (outputs.map (·.1)) :=
    List.forall₂_map_right_iff.mpr (routed.imp fun _ _ here => here.1.symm)
  exact (List.forall₂_eq_eq_eq ▸ numbers : _ = _).symm

theorem Routed.rows_eq (routed : Routed format schema exchange rows outputs) :
    outputs.map (rowsOf ·.2) = (List.range exchange.partitionCount.val).map fun destination =>
      rows.filter (exchange.destination format schema · = destination) := by
  have each : List.Forall₂ (fun destination found =>
      rows.filter (exchange.destination format schema · = destination) = found)
      (List.range exchange.partitionCount.val) (outputs.map (rowsOf ·.2)) :=
    List.forall₂_map_right_iff.mpr (routed.imp fun _ _ here => here.2.2.symm)
  exact forall₂_eq.mp each

theorem Routed.sublist (routed : Routed format schema exchange rows outputs)
    {output : Nat × List (RecordBatch F)} (member : output ∈ outputs) : (rowsOf output.2).Sublist rows := by
  obtain ⟨_, _, _, _, kept⟩ := forall₂_mem routed member
  rw [kept]
  exact List.filter_sublist

theorem Routed.perm (routed : Routed format schema exchange rows outputs) (valid : exchange.Valid schema) :
    (outputs.flatMap (rowsOf ·.2)).Perm rows := by
  rw [List.flatMap_def, routed.rows_eq, ← List.flatMap_def]
  exact Grouping.perm_labelled fun row _ => exchange.destination_lt valid format row

theorem Routed.arrivesAt_iff (routed : Routed format schema exchange rows outputs)
    (valid : exchange.Valid schema) {row : Row F} {destination : Nat} :
    ArrivesAt outputs row destination ↔ row ∈ rows ∧ exchange.destination format schema row = destination := by
  constructor
  · rintro ⟨output, member, rfl, present⟩
    obtain ⟨_, _, numbered, _, kept⟩ := forall₂_mem routed member
    rw [kept, List.mem_filter, decide_eq_true_eq] at present
    exact ⟨present.1, present.2.trans numbered.symm⟩
  · rintro ⟨present, rfl⟩
    have inside := List.mem_range.mpr (exchange.destination_lt valid format row)
    obtain ⟨output, member, numbered, _, kept⟩ := forall₂_item routed inside
    refine ⟨output, member, numbered, ?_⟩
    rw [kept, List.mem_filter]
    exact ⟨present, decide_eq_true rfl⟩

end

theorem repartition_lossless_and_consistent {outputs : List (Nat × List (RecordBatch F))}
    (done : repartition format schema batches exchange = .ok outputs) :
    outputs.map (·.1) = List.range exchange.partitionCount.val ∧
      (∀ output ∈ outputs, (rowsOf output.2).Sublist (rowsOf batches)) ∧
      (outputs.flatMap (rowsOf ·.2)).Perm (rowsOf batches) ∧
      (∀ row ∈ rowsOf batches, ∃! destination, ArrivesAt outputs row destination) ∧
      ∀ (schema' : Schema) (batches' : List (RecordBatch F)) (exchange' : HashExchange)
        (outputs' : List (Nat × List (RecordBatch F))),
        repartition format schema' batches' exchange' = .ok outputs' →
        exchange'.partitionCount = exchange.partitionCount →
        exchange'.keyTypes schema' = exchange.keyTypes schema →
        ∀ row ∈ rowsOf batches, ∀ row' ∈ rowsOf batches', exchange'.keyOf row' = exchange.keyOf row →
          ∀ destination, ArrivesAt outputs row destination ↔ ArrivesAt outputs' row' destination := by
  have valid := valid_of_repartition done
  have routed := repartition_routed done
  refine ⟨routed.numbered, fun output => routed.sublist, routed.perm valid, fun row present => ?_, ?_⟩
  · refine ⟨exchange.destination format schema row, (routed.arrivesAt_iff valid).mpr ⟨present, rfl⟩, ?_⟩
    intro destination arrives
    exact ((routed.arrivesAt_iff valid).mp arrives).2.symm
  · intro schema' batches' exchange' outputs' done' counts types row present row' present' keys destination
    -- The destination is a function of the typed key and of the number of destinations alone.
    have same : exchange'.destination format schema' row' = exchange.destination format schema row := by
      rw [HashExchange.destination, counts, types, keys, HashExchange.destination]
    rw [routed.arrivesAt_iff valid,
      (repartition_routed done').arrivesAt_iff (valid_of_repartition done'), same,
      and_iff_right present, and_iff_right present']

theorem repartition_lossless_and_consistent_sample :
    let format : RowFormat ℚ := ⟨fun _ key => key.map fun value => if value = .uint64 7 then 55 else 0⟩
    let left : Schema := ⟨[⟨"k", .uint64, true, .empty⟩, ⟨"v", .utf8, true, .empty⟩], .empty⟩
    let right : Schema := ⟨[⟨"w", .utf8, true, .empty⟩, ⟨"k", .uint64, true, .empty⟩], .empty⟩
    let first : List (RecordBatch ℚ) :=
      [⟨left, [[.uint64 7, .utf8 "a"], [.null, .utf8 "b"]], by decide⟩, ⟨left, [], by decide⟩]
    let second : List (RecordBatch ℚ) := [⟨right, [[.utf8 "c", .null], [.utf8 "d", .uint64 7]], by decide⟩]
    ∃ outputs outputs', repartition format left first ⟨[0], 3⟩ = .ok outputs ∧
      repartition format right second ⟨[1], 3⟩ = .ok outputs' ∧
      outputs.map (·.1) = [0, 1, 2] ∧
      (∀ destination, ArrivesAt outputs [.uint64 7, .utf8 "a"] destination ↔
        ArrivesAt outputs' [.utf8 "d", .uint64 7] destination) ∧
      ∀ destination, ArrivesAt outputs [.null, .utf8 "b"] destination ↔
        ArrivesAt outputs' [.utf8 "c", .null] destination := by
  intro format left right first second
  obtain ⟨outputs, sent⟩ : ∃ outputs, repartition format left first ⟨[0], 3⟩ = .ok outputs :=
    exists_repartition ⟨by decide, by decide, by decide⟩ (by decide) (by decide)
  obtain ⟨outputs', sent'⟩ : ∃ outputs, repartition format right second ⟨[1], 3⟩ = .ok outputs :=
    exists_repartition ⟨by decide, by decide, by decide⟩ (by decide) (by decide)
  obtain ⟨numbered, _, _, _, consistent⟩ := repartition_lossless_and_consistent sent
  have meet := consistent right second ⟨[1], 3⟩ outputs' sent' rfl rfl
  exact ⟨outputs, outputs', sent, sent', numbered,
    meet [.uint64 7, .utf8 "a"] (by decide) [.utf8 "d", .uint64 7] (by decide) rfl,
    meet [.null, .utf8 "b"] (by decide) [.utf8 "c", .null] (by decide) rfl⟩

end

end SparkX
