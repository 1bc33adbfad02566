import SparkX.Shared.Rowwise

set_option autoImplicit false

namespace Grouping

variable {κ σ ι ε ο : Type} [DecidableEq κ]

def insert (fresh : σ) (step : σ → ι → Except ε σ) (groups : List (κ × σ)) (row : κ × ι) :
    Except ε (List (κ × σ)) := do
  let groups := if groups.any (·.1 = row.1) then groups else groups ++ [(row.1, fresh)]
  groups.mapM fun entry =>
    if entry.1 = row.1 then do
      let state ← step entry.2 row.2
      return (row.1, state)
    else return entry

def itemsOf (key : κ) (rows : List (κ × ι)) : List ι :=
  (rows.filter (·.1 = key)).map (·.2)

def noteKey (keys : List κ) (key : κ) : List κ :=
  if key ∈ keys then keys else keys ++ [key]

-- The keys in the order of their first appearance, after those that are there from the start.
def keysOf (initial : List κ) (rows : List (κ × ι)) : List κ :=
  rows.foldl (fun keys row => noteKey keys row.1) initial

def results (compute : List ι → Except ε ο) (initial : List κ) (rows : List (κ × ι)) :
    Except ε (List (κ × ο)) :=
  (keysOf initial rows).mapM fun key => do
    let result ← compute (itemsOf key rows)
    return (key, result)

@[simp] theorem itemsOf_nil (key : κ) : itemsOf key ([] : List (κ × ι)) = [] := rfl

theorem itemsOf_append (key : κ) (first second : List (κ × ι)) :
    itemsOf key (first ++ second) = itemsOf key first ++ itemsOf key second := by
  rw [itemsOf, List.filter_append, List.map_append, itemsOf, itemsOf]

theorem itemsOf_perm (key : κ) {first second : List (κ × ι)} (same : first.Perm second) :
    (itemsOf key first).Perm (itemsOf key second) :=
  (same.filter _).map _

theorem mem_itemsOf {key : κ} {rows : List (κ × ι)} {item : ι} :
    item ∈ itemsOf key rows ↔ (key, item) ∈ rows := by
  simp [itemsOf]

theorem itemsOf_eq_nil {key : κ} {rows : List (κ × ι)} :
    itemsOf key rows = [] ↔ key ∉ rows.map (·.1) := by
  rw [itemsOf, List.map_eq_nil_iff, List.filter_eq_nil_iff]
  simp only [decide_eq_true_eq, List.mem_map, not_exists, not_and]

theorem mem_noteKey {keys : List κ} {key other : κ} :
    other ∈ noteKey keys key ↔ other ∈ keys ∨ other = key := by
  unfold noteKey
  split
  next inside =>
    constructor
    · exact .inl
    · rintro (there | rfl)
      · exact there
      · exact inside
  next => simp

theorem nodup_noteKey {keys : List κ} (distinct : keys.Nodup) (key : κ) : (noteKey keys key).Nodup := by
  unfold noteKey
  split
  next => exact distinct
  next outside => simpa [List.nodup_append] using ⟨distinct, fun other inside same => outside (same ▸ inside)⟩

theorem keysOf_append (initial : List κ) (rows : List (κ × ι)) (row : κ × ι) :
    keysOf initial (rows ++ [row]) = noteKey (keysOf initial rows) row.1 := by
  simp [keysOf]

theorem nodup_keysOf {initial : List κ} (distinct : initial.Nodup) (rows : List (κ × ι)) :
    (keysOf initial rows).Nodup := by
  induction rows using List.reverseRecOn with
  | nil => exact distinct
  | append_singleton rows row ih =>
    rw [keysOf_append]
    exact nodup_noteKey ih row.1

theorem mem_keysOf {initial : List κ} {rows : List (κ × ι)} {key : κ} :
    key ∈ keysOf initial rows ↔ key ∈ initial ∨ key ∈ rows.map (·.1) := by
  induction rows using List.reverseRecOn with
  | nil => simp [keysOf]
  | append_singleton rows row ih =>
    rw [keysOf_append, mem_noteKey, ih]
    simp [or_assoc]

section

variable {fresh : σ} {step : σ → ι → Except ε σ}

theorem insert_ok {groups result : List (κ × σ)} {row : κ × ι} :
    insert fresh step groups row = .ok result ↔ List.Forall₂ (fun entry new => new.1 = entry.1 ∧
          if entry.1 = row.1 then step entry.2 row.2 = .ok new.2 else new.2 = entry.2)
        (if row.1 ∈ groups.map (·.1) then groups else groups ++ [(row.1, fresh)]) result := by
  have known : groups.any (·.1 = row.1) = true ↔ row.1 ∈ groups.map (·.1) := by
    simp [List.any_eq_true]
  simp only [insert, known, Rowwise.mapM_ok]
  refine iff_of_eq (congrFun (congrFun (congrArg _ ?_) _) _)
  funext entry new
  by_cases same : entry.1 = row.1
  · simp only [same, if_true, Except.bind_ok, Except.pure_eq_ok, Prod.ext_iff, eq_iff_iff]
    constructor
    · rintro ⟨state, stepped, here, rfl⟩
      exact ⟨here.symm, stepped⟩
    · rintro ⟨here, stepped⟩
      exact ⟨new.2, stepped, here.symm, rfl⟩
  · simp only [same, if_false, Except.pure_eq_ok, Prod.ext_iff, eq_iff_iff]
    exact and_congr eq_comm eq_comm

theorem exists_noted {related : κ → κ × σ → Prop} {keys : List κ} {key : κ}
    (named : ∀ key entry, related key entry → entry.1 = key)
    (begins : key ∉ keys → ∀ entry, related key entry ↔ entry = (key, fresh))
    (holds : List (κ × σ) → Prop) :
    (∃ groups, List.Forall₂ related keys groups ∧
        holds (if key ∈ groups.map (·.1) then groups else groups ++ [(key, fresh)])) ↔
      ∃ groups, List.Forall₂ related (noteKey keys key) groups ∧ holds groups := by
  have keysKept {groups : List (κ × σ)} (pointwise : List.Forall₂ related keys groups) :
      groups.map (·.1) = keys := by
    refine List.forall₂_eq_eq_eq ▸ List.forall₂_map_left_iff.mpr (pointwise.flip.imp ?_)
    exact fun entry key found => named key entry found
  unfold noteKey
  by_cases inside : key ∈ keys
  · rw [if_pos inside]
    refine exists_congr fun groups => and_congr_right fun pointwise => ?_
    rw [keysKept pointwise, if_pos inside]
  · rw [if_neg inside]
    constructor
    · rintro ⟨groups, pointwise, found⟩
      rw [keysKept pointwise, if_neg inside] at found
      exact ⟨_, List.rel_append pointwise (.cons ((begins inside _).mpr rfl) .nil), found⟩
    · rintro ⟨extended, pointwise, found⟩
      obtain ⟨groups, last, earlier, later, rfl⟩ := Rowwise.forall₂_append_left.mp pointwise
      obtain ⟨entry, _, here, none, rfl⟩ := List.forall₂_cons_left_iff.mp later
      obtain rfl := List.forall₂_nil_left_iff.mp none
      obtain rfl := (begins inside entry).mp here
      exact ⟨groups, earlier, by rwa [keysKept earlier, if_neg inside]⟩

theorem foldlM_insert_ok {initial : List κ} {rows : List (κ × ι)} {groups : List (κ × σ)} :
    rows.foldlM (insert fresh step) (initial.map (·, fresh)) = .ok groups ↔
      List.Forall₂ (fun key entry => entry.1 = key ∧
          (itemsOf key rows).foldlM step fresh = .ok entry.2) (keysOf initial rows) groups := by
  induction rows using List.reverseRecOn generalizing groups with
  | nil =>
    have same : (fun key (entry : κ × σ) => entry.1 = key ∧
        (itemsOf key ([] : List (κ × ι))).foldlM step fresh = .ok entry.2) =
        fun key entry => (key, fresh) = entry := by
      funext key entry
      rw [itemsOf_nil, List.foldlM_nil, Except.pure_eq_ok, Prod.ext_iff, eq_comm (a := key)]
    rw [same, Rowwise.forall₂_eq, List.foldlM_nil, Except.pure_eq_ok]
    exact eq_comm
  | append_singleton rows row ih =>
    simp only [List.foldlM_append, List.foldlM_cons, List.foldlM_nil, bind_pure, Except.bind_ok, ih,
      insert_ok, keysOf_append]
    have begins : row.1 ∉ keysOf initial rows → ∀ entry : κ × σ,
        (entry.1 = row.1 ∧ (itemsOf row.1 rows).foldlM step fresh = .ok entry.2) ↔
          entry = (row.1, fresh) := by
      intro outside entry
      have none : itemsOf row.1 rows = [] :=
        itemsOf_eq_nil.mpr fun inside => outside (mem_keysOf.mpr (.inr inside))
      rw [none, List.foldlM_nil, Except.pure_eq_ok, Prod.ext_iff, eq_comm (a := fresh)]
    rw [exists_noted (fun _ _ found => found.1) begins fun found => List.Forall₂ _ found groups,
      ← Rowwise.forall₂_comp]
    refine iff_of_eq (congrFun (congrFun (congrArg _ ?_) _) _)
    funext key new
    rw [eq_iff_iff, itemsOf_append, List.foldlM_append, Except.bind_ok]
    by_cases same : row.1 = key
    · have last : itemsOf key [row] = [row.2] := by simp [itemsOf, same]
      simp only [last, List.foldlM_cons, List.foldlM_nil, bind_pure, same]
      constructor
      · rintro ⟨entry, ⟨rfl, folded⟩, named, stepped⟩
        exact ⟨named, entry.2, folded, by simpa using stepped⟩
      · rintro ⟨named, state, folded, stepped⟩
        exact ⟨(key, state), ⟨rfl, folded⟩, named, by simpa using stepped⟩
    · have last : itemsOf key [row] = [] := by simp [itemsOf, same]
      simp only [last, List.foldlM_nil, Except.pure_eq_ok]
      constructor
      · rintro ⟨entry, ⟨rfl, folded⟩, named, kept⟩
        rw [if_neg (Ne.symm same)] at kept
        exact ⟨named, entry.2, folded, kept.symm⟩
      · rintro ⟨named, state, folded, rfl⟩
        exact ⟨(key, new.2), ⟨rfl, folded⟩, named, if_neg (Ne.symm same) ▸ rfl⟩

theorem foldlM_insert_finish {finish : σ → ο} {initial : List κ} {rows : List (κ × ι)}
    {found : List (κ × ο)} :
    (∃ groups, rows.foldlM (insert fresh step) (initial.map (·, fresh)) = .ok groups ∧
        groups.map (fun entry => (entry.1, finish entry.2)) = found) ↔
      results (fun items => finish <$> items.foldlM step fresh) initial rows = .ok found := by
  simp only [foldlM_insert_ok, results, Rowwise.mapM_ok, ← Rowwise.forall₂_map]
  refine iff_of_eq (congrFun (congrFun (congrArg _ ?_) _) _)
  funext key new
  simp only [eq_iff_iff, Except.bind_ok, Except.map_eq_ok, Except.pure_eq_ok]
  constructor
  · rintro ⟨entry, ⟨rfl, folded⟩, rfl⟩
    exact ⟨_, ⟨entry.2, folded, rfl⟩, rfl⟩
  · rintro ⟨_, ⟨state, folded, rfl⟩, rfl⟩
    exact ⟨(key, state), ⟨rfl, folded⟩, rfl⟩

end

section

variable {compute : List ι → Except ε ο} {initial : List κ}

variable {rows : List (κ × ι)} {found : List (κ × ο)}

theorem results_ok : results compute initial rows = .ok found ↔ found.map (·.1) = keysOf initial rows ∧
        ∀ entry ∈ found, compute (itemsOf entry.1 rows) = .ok entry.2 := by
  have split : (fun key (entry : κ × ο) => (do
      let result ← compute (itemsOf key rows)
      return (key, result) : Except ε (κ × ο)) = .ok entry) =
      fun key entry => entry.1 = key ∧ compute (itemsOf entry.1 rows) = .ok entry.2 := by
    funext key entry
    simp only [eq_iff_iff, Except.bind_ok, Except.pure_eq_ok]
    constructor
    · rintro ⟨result, computed, rfl⟩
      exact ⟨rfl, computed⟩
    · rintro ⟨rfl, computed⟩
      exact ⟨entry.2, computed, rfl⟩
  rw [results, Rowwise.mapM_ok, split, Rowwise.forall₂_and_right]
  refine and_congr_left fun _ => ?_
  rw [← List.forall₂_eq_eq_eq, List.forall₂_map_left_iff]
  exact ⟨.flip, .flip⟩

theorem results_congr {ζ : Type} {other : List ι → Except ζ ο}
    (same : ∀ items result, compute items = .ok result ↔ other items = .ok result) :
    results compute initial rows = .ok found ↔ results other initial rows = .ok found := by
  simp only [results_ok, same]

theorem results_map {π : Type} {f : ο → π} {mapped : List (κ × π)} :
    results (fun items => f <$> compute items) initial rows = .ok mapped ↔
      ∃ found, results compute initial rows = .ok found ∧ found.map (fun entry => (entry.1, f entry.2)) = mapped := by
  simp only [results, Rowwise.mapM_ok, ← Rowwise.forall₂_map]
  refine iff_of_eq (congrFun (congrFun (congrArg _ ?_) _) _)
  funext key entry
  simp only [Except.bind_ok, Except.map_eq_ok, Except.pure_eq_ok, eq_iff_iff]
  constructor
  · rintro ⟨_, ⟨result, computed, rfl⟩, rfl⟩
    exact ⟨(key, result), ⟨result, computed, rfl⟩, rfl⟩
  · rintro ⟨_, ⟨result, computed, rfl⟩, rfl⟩
    exact ⟨f result, ⟨result, computed, rfl⟩, rfl⟩

theorem exists_results : (∃ found, results compute initial rows = .ok found) ↔
      ∀ key ∈ keysOf initial rows, ∃ result, compute (itemsOf key rows) = .ok result := by
  constructor
  · rintro ⟨found, computed⟩ key inside
    obtain ⟨keys, each⟩ := results_ok.mp computed
    obtain ⟨entry, member, rfl⟩ := List.mem_map.mp (keys ▸ inside)
    exact ⟨entry.2, each entry member⟩
  · intro each
    have entries : ∀ key ∈ keysOf initial rows, ∃ entry : κ × ο,
        (do return (key, ← compute (itemsOf key rows)) : Except ε (κ × ο)) = .ok entry := by
      intro key inside
      obtain ⟨result, computed⟩ := each key inside
      exact ⟨(key, result), Except.bind_ok.mpr ⟨result, computed, rfl⟩⟩
    obtain ⟨found, pointwise⟩ := Rowwise.forall₂_exists entries
    exact ⟨found, Rowwise.mapM_ok.mpr pointwise⟩

theorem mem_results (computed : results compute initial rows = .ok found) {key : κ} {result : ο} :
    (key, result) ∈ found ↔ key ∈ keysOf initial rows ∧ compute (itemsOf key rows) = .ok result := by
  obtain ⟨keys, each⟩ := results_ok.mp computed
  constructor
  · intro member
    exact ⟨keys ▸ List.mem_map_of_mem member, each _ member⟩
  · rintro ⟨inside, here⟩
    obtain ⟨entry, member, rfl⟩ := List.mem_map.mp (keys ▸ inside)
    rwa [Except.ok.inj (here.symm.trans (each entry member))]

theorem nodup_results (distinct : initial.Nodup) (computed : results compute initial rows = .ok found) :
    (found.map (·.1)).Nodup := by
  rw [(results_ok.mp computed).1]
  exact nodup_keysOf distinct rows

end

section

variable {π ζ : Type}

-- What is computed from items can also be computed from what is computed from parts of them, in any
-- order and number of the parts, as long as there are not too many items.
structure Splits (admissible : ι → Prop) (limit : Nat) (whole : List ι → Except ε ο)
    (part : List ι → Except ε π) (merge : List π → Except ζ ο) : Prop where
  parts : ∀ {columns : List (List ι)} {result}, (∀ item ∈ columns.flatten, admissible item) →
    whole columns.flatten = .ok result → ∀ column ∈ columns, ∃ found, part column = .ok found
  whole : ∀ {columns : List (List ι)} {found arrived}, (∀ item ∈ columns.flatten, admissible item) →
    columns.flatten.length < limit →
    List.Forall₂ (fun column found => part column = .ok found) columns found → arrived.Perm found →
    ∃ result, whole columns.flatten = .ok result ∧ merge arrived = .ok result

variable {admissible : ι → Prop} {limit : Nat} {whole : List ι → Except ε ο}
  {part : List ι → Except ε π} {merge : List π → Except ζ ο} {initial : List κ}
  {pieces : List (List (κ × ι))}

def columnsOf (initial : List κ) (key : κ) (pieces : List (List (κ × ι))) : List (List ι) :=
  (pieces.filter (key ∈ keysOf initial ·)).map (itemsOf key)

theorem flatten_columnsOf (key : κ) :
    (columnsOf initial key pieces).flatten = itemsOf key pieces.flatten := by
  induction pieces with
  | nil => rfl
  | cons piece rest ih =>
    rw [List.flatten_cons, itemsOf_append, ← ih, columnsOf, List.filter_cons]
    split
    next => rfl
    next outside =>
      have none : itemsOf key piece = [] :=
        itemsOf_eq_nil.mpr fun inside => outside (decide_eq_true (mem_keysOf.mpr (.inr inside)))
      rw [none, List.nil_append, columnsOf]

theorem keysOf_flatten {key : κ} :
    key ∈ keysOf initial pieces.flatten ↔ key ∈ initial ∨ ∃ piece ∈ pieces, key ∈ keysOf initial piece := by
  simp only [mem_keysOf, List.map_flatten, List.mem_flatten, List.mem_map]
  grind

theorem itemsOf_results (distinct : initial.Nodup) {rows : List (κ × ι)} {found : List (κ × ο)}
    {compute : List ι → Except ε ο} (computed : results compute initial rows = .ok found) {key : κ}
    (inside : key ∈ keysOf initial rows) :
    ∃ result, compute (itemsOf key rows) = .ok result ∧ itemsOf key found = [result] := by
  obtain ⟨result, here⟩ := exists_results.mp ⟨found, computed⟩ key inside
  have nodup := nodup_results distinct computed
  refine ⟨result, here, List.perm_singleton.mp ((List.perm_ext_iff_of_nodup ?_ ?_).mpr ?_)⟩
  · have pairs : (found.filter (·.1 = key)).Nodup := (List.Nodup.of_map _ nodup).filter _
    refine (List.nodup_map_iff_inj_on pairs).mpr ?_
    intro first one second two same
    simp only [List.mem_filter, decide_eq_true_eq] at one two
    exact Prod.ext (one.2.trans two.2.symm) same
  · exact List.nodup_singleton result
  · intro other
    rw [mem_itemsOf, mem_results computed, List.mem_singleton, here, Except.ok.injEq, eq_comm]
    exact and_iff_right inside

theorem itemsOf_parts (distinct : initial.Nodup) {parts : List (List (κ × π))}
    (computed : List.Forall₂ (fun piece found => results part initial piece = .ok found) pieces parts)
    (key : κ) :
    List.Forall₂ (fun column found => part column = .ok found) (columnsOf initial key pieces)
      (itemsOf key parts.flatten) := by
  induction computed with
  | nil => exact .nil
  | @cons piece found pieces parts here _ ih =>
    rw [List.flatten_cons, itemsOf_append, columnsOf, List.filter_cons]
    by_cases inside : key ∈ keysOf initial piece
    · obtain ⟨result, computed, only⟩ := itemsOf_results distinct here inside
      rw [if_pos (decide_eq_true inside), only]
      exact .cons computed ih
    · have none : itemsOf key found = [] := by
        rw [itemsOf_eq_nil, (results_ok.mp here).1]
        exact inside
      rwa [if_neg (by simpa using inside), none]

theorem results_parts (splits : Splits admissible limit whole part merge)
    (allowed : ∀ row ∈ pieces.flatten, admissible row.2) {found : List (κ × ο)}
    (computed : results whole initial pieces.flatten = .ok found) :
    ∃ parts, pieces.mapM (results part initial) = .ok parts := by
  have each : ∀ piece ∈ pieces, ∃ found, results part initial piece = .ok found := by
    intro piece member
    refine exists_results.mpr fun key inside => ?_
    obtain ⟨result, here⟩ := exists_results.mp ⟨found, computed⟩ key
      (keysOf_flatten.mpr (.inr ⟨piece, member, inside⟩))
    have flat : (columnsOf initial key pieces).flatten = itemsOf key pieces.flatten := flatten_columnsOf key
    rw [← flat] at here
    refine splits.parts ?_ here _ (List.mem_map_of_mem (List.mem_filter.mpr ⟨member, decide_eq_true inside⟩))
    intro item there
    rw [flat, mem_itemsOf] at there
    exact allowed _ there
  obtain ⟨parts, pointwise⟩ := Rowwise.forall₂_exists each
  exact ⟨parts, Rowwise.mapM_ok.mpr pointwise⟩

theorem results_merge (splits : Splits admissible limit whole part merge) (distinct : initial.Nodup)
    (allowed : ∀ row ∈ pieces.flatten, admissible row.2) (few : pieces.flatten.length < limit)
    {parts : List (List (κ × π))} (computed : pieces.mapM (results part initial) = .ok parts)
    {arrived : List (κ × π)} (same : arrived.Perm parts.flatten) :
    ∃ found merged, results whole initial pieces.flatten = .ok found ∧
      results merge initial arrived = .ok merged ∧ merged.Perm found := by
  have pointwise := Rowwise.mapM_ok.mp computed
  have agree (key : κ) : ∃ result, whole (itemsOf key pieces.flatten) = .ok result ∧
      merge (itemsOf key arrived) = .ok result := by
    have flat : (columnsOf initial key pieces).flatten = itemsOf key pieces.flatten := flatten_columnsOf key
    rw [← flat]
    refine splits.whole ?_ ?_ (itemsOf_parts distinct pointwise key) (itemsOf_perm key same)
    · intro item there
      rw [flat, mem_itemsOf] at there
      exact allowed _ there
    · rw [flat, itemsOf, List.length_map]
      exact Nat.lt_of_le_of_lt (List.length_filter_le _ _) few
  have keys (key : κ) : key ∈ keysOf initial arrived ↔ key ∈ keysOf initial pieces.flatten := by
    have listed : key ∈ parts.flatten.map (·.1) ↔ ∃ piece ∈ pieces, key ∈ keysOf initial piece := by
      have named : parts.map (·.map (·.1)) = pieces.map (keysOf initial) :=
        Rowwise.mapM_map (fun _ _ found => (results_ok.mp found).1) computed
      simp only [List.map_flatten, named, List.mem_flatten, List.mem_map, exists_exists_and_eq_and]
    rw [mem_keysOf, (same.map _).mem_iff, listed, keysOf_flatten]
  obtain ⟨found, wholly⟩ := exists_results.mpr fun key (_ : key ∈ keysOf initial pieces.flatten) =>
    (agree key).imp fun _ both => both.1
  obtain ⟨merged, together⟩ := exists_results.mpr fun key (_ : key ∈ keysOf initial arrived) =>
    (agree key).imp fun _ both => both.2
  refine ⟨found, merged, wholly, together, (List.perm_ext_iff_of_nodup ?_ ?_).mpr ?_⟩
  · exact List.Nodup.of_map _ (nodup_results distinct together)
  · exact List.Nodup.of_map _ (nodup_results distinct wholly)
  · rintro ⟨key, result⟩
    obtain ⟨common, left, right⟩ := agree key
    rw [mem_results together, mem_results wholly, keys, left, right, Except.ok.injEq, Except.ok.injEq]

end

section

variable {route : κ → Nat} {rows arrived : List (κ × ι)} {destination : Nat} {initial : List κ}

omit [DecidableEq κ] in
theorem perm_labelled {α : Type} {items : List α} {label : α → Nat} {count : Nat}
    (below : ∀ item ∈ items, label item < count) :
    ((List.range count).flatMap fun destination => items.filter (label · = destination)).Perm items := by
  have general : ((List.range count).flatMap fun destination => items.filter (label · = destination)).Perm
      (items.filter (label · < count)) := by
    clear below
    induction count with
    | zero => simp
    | succ count ih =>
      rw [List.range_succ, List.flatMap_append]
      have apart := List.filter_append_perm (label · < count) (items.filter (label · < count + 1))
      simp only [List.filter_filter] at apart
      refine (ih.append_right _).trans (List.Perm.trans (.of_eq ?_) apart)
      rw [List.flatMap_singleton]
      congr 1
      · exact List.filter_congr fun item _ => by grind
      · exact List.filter_congr fun item _ => by grind
  rwa [List.filter_eq_self.mpr fun item member => decide_eq_true (below item member)] at general

end

section

variable {α β : Type} [LinearOrder β] {rank : α → β} {before : α → α → Prop} [DecidableRel before]

theorem insertionSort_ranked {items : List α}
    (agrees : ∀ one ∈ items, ∀ other ∈ items, before one other ↔ rank one ≤ rank other) :
    items.insertionSort before = items.insertionSort (rank · ≤ rank ·) := by
  have mapped := List.map_insertionSort before (rank · ≤ rank ·) id items agrees
  rwa [List.map_id, List.map_id] at mapped

theorem pairwise_ranked (items : List α) :
    (items.insertionSort (rank · ≤ rank ·)).Pairwise (rank · ≤ rank ·) := by
  have total : Std.Total fun one other : α => rank one ≤ rank other := ⟨fun one other => le_total _ _⟩
  have trans : IsTrans α fun one other => rank one ≤ rank other := ⟨fun _ _ _ => le_trans⟩
  exact List.pairwise_insertionSort _ items

-- What is chosen in order before everything else are the first ranks of the whole in order.
theorem take_ranked {chosen others sorted : List α} (same : (chosen ++ others).Perm sorted)
    (ordered : chosen.Pairwise (rank · ≤ rank ·)) (whole : sorted.Pairwise (rank · ≤ rank ·))
    (first : ∀ one ∈ chosen, ∀ other ∈ others, rank one ≤ rank other) :
    chosen.map rank = (sorted.map rank).take chosen.length := by
  have rest := List.perm_insertionSort (rank · ≤ rank ·) others
  have joined : ((chosen ++ others.insertionSort (rank · ≤ rank ·)).map rank).Pairwise (· ≤ ·) := by
    refine List.pairwise_map.mpr (List.pairwise_append.mpr ⟨ordered, pairwise_ranked others, ?_⟩)
    exact fun one here other there => first one here other (rest.mem_iff.mp there)
  have equal := List.Perm.eq_of_pairwise (fun _ _ _ _ => le_antisymm) joined (List.pairwise_map.mpr whole)
    (((List.Perm.append_left chosen rest).trans same).map rank)
  rw [← equal, List.map_append, List.take_left' (List.length_map _)]

theorem insertionSort_perm {first second : List α}
    (agrees : ∀ one ∈ first, ∀ other ∈ first, before one other ↔ rank one ≤ rank other)
    (distinct : ∀ one ∈ first, ∀ other ∈ first, rank one = rank other → one = other)
    (same : first.Perm second) : first.insertionSort before = second.insertionSort before := by
  rw [insertionSort_ranked agrees, insertionSort_ranked fun one here other there =>
    agrees one (same.mem_iff.mpr here) other (same.mem_iff.mpr there)]
  refine List.Perm.eq_of_pairwise ?_ (pairwise_ranked first) (pairwise_ranked second)
    ((List.perm_insertionSort _ first).trans (same.trans (List.perm_insertionSort _ second).symm))
  intro one other here there before after
  exact distinct one ((List.perm_insertionSort _ first).mem_iff.mp here) other
    (same.mem_iff.mpr ((List.perm_insertionSort _ second).mem_iff.mp there)) (le_antisymm before after)

theorem insertionSort_strict {items : List α}
    (agrees : ∀ one ∈ items, ∀ other ∈ items, before one other ↔ rank one ≤ rank other)
    (distinct : (items.map rank).Nodup) : (items.insertionSort before).Pairwise (rank · < rank ·) := by
  rw [insertionSort_ranked agrees]
  have apart : (items.insertionSort (rank · ≤ rank ·)).Pairwise (rank · ≠ rank ·) :=
    List.pairwise_map.mp (((List.perm_insertionSort _ items).map rank).nodup_iff.mpr distinct)
  exact ((pairwise_ranked items).and apart).imp fun both => lt_of_le_of_ne both.1 both.2

end

end Grouping
