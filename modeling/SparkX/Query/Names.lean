import SparkX.Query.Batch
import SparkX.Shared.Text

set_option autoImplicit false

namespace SparkX

def isQualified (name : String) : Bool := name.toList.contains '.'

def qualified (qualifier name : String) : String := s!"{qualifier}.{name}"

def qualifySchema (schema : Schema) (qualifier : String) : Schema :=
  { fields := schema.fields.map fun field => { field with name := s!"{qualifier}.{field.name}" } }

theorem toList_qualified (qualifier name : String) :
    (qualified qualifier name).toList = qualifier.toList ++ '.' :: name.toList := by
  simp [qualified, Text.toString_text]

theorem isQualified_qualified (qualifier name : String) :
    isQualified (qualified qualifier name) = true := by
  simp [isQualified, toList_qualified]

theorem qualified_ne (qualifier name : String) : qualified qualifier name ≠ name := by
  intro same
  have lengths := congrArg (fun text => text.toList.length) same
  simp only [toList_qualified, List.length_append, List.length_cons] at lengths
  omega

theorem qualified_inj {qualifier first second : String} :
    qualified qualifier first = qualified qualifier second ↔ first = second := by
  constructor
  · intro same
    have letters := congrArg String.toList same
    rw [toList_qualified, toList_qualified, List.append_cancel_left_eq] at letters
    exact String.toList_inj.mp (List.cons.inj letters).2
  · exact congrArg (qualified qualifier)

theorem unqualified_qualified (qualifier name : String) :
    unqualified (qualified qualifier name) = unqualified name := by
  unfold unqualified
  rw [toList_qualified, List.reverse_append, List.reverse_cons, List.append_assoc,
    List.singleton_append, Text.takeWhile_stop (by simp)]

theorem unqualified_eq_self {name : String} (plain : isQualified name = false) :
    unqualified name = name := by
  have letters : ∀ letter ∈ name.toList.reverse, decide (letter ≠ '.') = true := by
    intro letter member
    rw [decide_eq_true_eq]
    rintro rfl
    simp [isQualified, List.mem_reverse.mp member] at plain
  rw [unqualified, List.takeWhile_eq_self_iff.mpr letters, List.reverse_reverse, String.ofList_toList]

theorem isQualified_unqualified (name : String) : isQualified (unqualified name) = false := by
  unfold isQualified unqualified
  rw [String.toList_ofList]
  refine Bool.eq_false_iff.mpr fun dotted => ?_
  have member := List.mem_reverse.mp (List.contains_iff_mem.mp dotted)
  simpa using List.mem_takeWhile_imp member

namespace Schema

variable {schema : Schema} {named other : String → Bool}

variable {index : Nat}

theorem mem_positions :
    index ∈ schema.positions named ↔ ∃ field, schema.fields[index]? = some field ∧ named field.name = true := by
  simp only [positions, List.mem_map, List.mem_filter, Prod.exists, List.mem_zipIdx_iff_getElem?]
  constructor
  · rintro ⟨field, position, ⟨present, matched⟩, rfl⟩
    exact ⟨field, present, matched⟩
  · rintro ⟨field, present, matched⟩
    exact ⟨field, index, ⟨present, matched⟩, rfl⟩

theorem positions_congr (same : ∀ field ∈ schema.fields, named field.name = other field.name) :
    schema.positions named = schema.positions other := by
  unfold positions
  congr 1
  refine List.filter_congr fun entry member => same entry.1 ?_
  exact List.mem_of_getElem? (List.mem_zipIdx_iff_getElem?.mp member)

theorem positions_sublist (implies : ∀ name, named name = true → other name = true) :
    (schema.positions named).Sublist (schema.positions other) := by
  have kept := List.monotone_filter_right schema.fields.zipIdx fun entry => implies entry.1.name
  exact kept.map (·.2)

theorem positions_qualifySchema (schema : Schema) (qualifier : String) (named : String → Bool) :
    (qualifySchema schema qualifier).positions named =
      schema.positions fun name => named (qualified qualifier name) := by
  simp only [positions, qualifySchema, List.zipIdx_map, List.filter_map, List.map_map]
  rfl

theorem resolveFieldIndex_ok {name : String} {index : Nat} :
    schema.resolveFieldIndex name = .ok index ↔
      schema.positions (· = name) = [index] ∨
        schema.positions (· = name) = [] ∧
          ¬(isQualified name = true ∧ ∃ field ∈ schema.fields, isQualified field.name = true) ∧
          schema.positions (unqualified · = unqualified name) = [index] := by
  unfold resolveFieldIndex
  rcases schema.positions (· = name) with _ | ⟨first, _ | ⟨second, rest⟩⟩
  · change (if isQualified name && schema.fields.any (isQualified ·.name) then _ else _) = _ ↔ _
    simp only [Bool.and_eq_true, List.any_eq_true]
    split
    next both => simp [both]
    next =>
      rcases schema.positions (unqualified · = unqualified name) with _ | ⟨first, _ | ⟨second, rest⟩⟩ <;>
        simp_all
  · simp
  · simp

variable {name : String}

theorem resolve_unqualified (plain : isQualified name = false)
    (suffix : schema.positions (unqualified · = unqualified name) = [index]) :
    schema.resolveFieldIndex name = .ok index := by
  have fewer : (schema.positions (· = name)).Sublist [index] := by
    rw [← suffix]
    refine positions_sublist fun column same => ?_
    rw [of_decide_eq_true same]
    exact decide_eq_true rfl
  rw [resolveFieldIndex_ok]
  rcases List.sublist_singleton.mp fewer with none | one
  · refine .inr ⟨none, fun both => ?_, suffix⟩
    rw [plain] at both
    exact Bool.false_ne_true both.1
  · exact .inl one

theorem resolve_qualified {qualifier : String}
    (plain : ∀ field ∈ schema.fields, isQualified field.name = false)
    (only : schema.positions (qualified qualifier · = name) = [index]) :
    schema.resolveFieldIndex name = .ok index := by
  obtain ⟨field, present, same⟩ := mem_positions.mp (only ▸ List.mem_singleton_self index)
  obtain rfl := of_decide_eq_true same
  have here := plain field (List.mem_of_getElem? present)
  refine resolveFieldIndex_ok.mpr (.inr ⟨?_, ?_, only ▸ positions_congr fun other member => ?_⟩)
  · refine List.eq_nil_iff_forall_not_mem.mpr fun position found => ?_
    obtain ⟨other, inside, equal⟩ := mem_positions.mp found
    have plainly := plain other (List.mem_of_getElem? inside)
    rw [of_decide_eq_true equal, isQualified_qualified] at plainly
    cases plainly
  · rintro ⟨_, other, member, dotted⟩
    rw [plain other member] at dotted
    cases dotted
  · rw [unqualified_qualified, unqualified_eq_self here, unqualified_eq_self (plain other member)]
    exact decide_eq_decide.mpr qualified_inj.symm

def DistinctNames (schema : Schema) : Prop := (schema.fields.map (·.name)).Nodup

instance : Decidable schema.DistinctNames := inferInstanceAs (Decidable (List.Nodup _))

variable {field : Field}

theorem positions_key (key : String → String) (distinct : (schema.fields.map (key ·.name)).Nodup)
    (present : schema.fields[index]? = some field) : schema.positions (key · = key field.name) = [index] := by
  have only (position : Nat) : position ∈ schema.positions (key · = key field.name) ↔ position = index := by
    simp only [mem_positions, decide_eq_true_eq]
    constructor
    · rintro ⟨other, there, same⟩
      have inside := (List.getElem?_eq_some_iff.mp there).1
      refine (List.getElem?_inj (by simpa using inside) distinct).mp ?_
      rw [List.getElem?_map, List.getElem?_map, there, present, Option.map_some, Option.map_some, same]
    · rintro rfl
      exact ⟨field, present, rfl⟩
  have nodup : (schema.positions (key · = key field.name)).Nodup := by
    have indices : (schema.fields.zipIdx.map (·.2)).Nodup := by
      rw [List.zipIdx_map_snd]
      exact List.nodup_range'
    exact indices.sublist (List.filter_sublist.map _)
  exact List.perm_singleton.mp ((List.perm_ext_iff_of_nodup nodup (List.nodup_singleton index)).mpr
    fun position => by rw [only, List.mem_singleton])

theorem positions_own (distinct : schema.DistinctNames) (present : schema.fields[index]? = some field) :
    schema.positions (· = field.name) = [index] :=
  positions_key id distinct present

theorem resolve_own (distinct : schema.DistinctNames) (present : schema.fields[index]? = some field) :
    schema.resolveFieldIndex field.name = .ok index :=
  resolveFieldIndex_ok.mpr (.inl (positions_own distinct present))

theorem resolves_in_scan (schema : Schema) (qualifier name : String) :
    (∀ index, (qualifySchema schema qualifier).resolveFieldIndex name = .ok index →
        schema.resolveFieldIndex name = .ok index) ↔
      (∀ field ∈ schema.fields, isQualified field.name = false) ∨
        (schema.positions (qualified qualifier · = name)).length ≠ 1 := by
  simp only [@resolveFieldIndex_ok (qualifySchema schema qualifier), positions_qualifySchema,
    unqualified_qualified]
  constructor
  · intro kept
    by_contra refuted
    obtain ⟨dotted, single⟩ := not_or.mp refuted
    obtain ⟨index, only⟩ := List.length_eq_one_iff.mp (not_not.mp single)
    obtain ⟨field, present, same⟩ := mem_positions.mp (only ▸ List.mem_singleton_self index)
    obtain rfl := of_decide_eq_true same
    rcases resolveFieldIndex_ok.mp (kept index (.inl only)) with exact | ⟨_, mixed, _⟩
    · obtain ⟨other, inside, equal⟩ := mem_positions.mp (exact ▸ List.mem_singleton_self index)
      obtain rfl := Option.some.inj (present.symm.trans inside)
      exact qualified_ne qualifier field.name (of_decide_eq_true equal).symm
    · refine dotted fun other member => Bool.eq_false_iff.mpr fun found => ?_
      exact mixed ⟨isQualified_qualified _ _, other, member, found⟩
  · rintro condition index (only | ⟨_, mixed, suffix⟩)
    · rcases condition with plain | several
      · exact resolve_qualified plain only
      · exact absurd (congrArg List.length only) several
    · refine resolve_unqualified (Bool.eq_false_iff.mpr fun dotted => mixed ⟨dotted, ?_⟩) suffix
      -- The schema has a column, and all columns of a qualified schema have a dot.
      obtain ⟨field, present, _⟩ := mem_positions.mp (suffix ▸ List.mem_singleton_self index)
      exact ⟨_, List.mem_map_of_mem (List.mem_of_getElem? present), isQualified_qualified _ _⟩

theorem resolves_elsewhere_in_scan :
    let scanned : Schema := ⟨[⟨"a", .int64, true, .empty⟩, ⟨"t.a", .int64, true, .empty⟩], .empty⟩
    (qualifySchema scanned "t").resolveFieldIndex "t.a" = .ok 0 ∧
      scanned.resolveFieldIndex "t.a" = .ok 1 :=
  ⟨rfl, rfl⟩

end Schema

end SparkX
