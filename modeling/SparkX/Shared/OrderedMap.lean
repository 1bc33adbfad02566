import Mathlib

set_option autoImplicit false

open Std

namespace OrderedMap

variable {K V : Type} {cmp : K → K → Ordering} [TransCmp cmp] [LawfulEqCmp cmp]

def total (weight : K → V → Nat) (map : TreeMap K V cmp) : Nat :=
  (map.toList.map fun entry => weight entry.1 entry.2).sum

variable {key : K} {value : V}

theorem mem_toList {map : TreeMap K V cmp} : (key, value) ∈ map.toList ↔ map[key]? = some value :=
  TreeMap.mem_toList_iff_getElem?_eq_some

omit [LawfulEqCmp cmp] in
theorem nodup_toList (map : TreeMap K V cmp) : map.toList.Nodup :=
  TreeMap.distinct_keys_toList.imp fun {first second} distinct same =>
    distinct (by rw [same]; exact ReflCmp.compare_self)

theorem perm_toList {first second : TreeMap K V cmp}
    (same : ∀ key : K, first[key]? = second[key]?) : first.toList.Perm second.toList := by
  rw [List.perm_ext_iff_of_nodup (nodup_toList first) (nodup_toList second)]
  rintro ⟨key, value⟩
  simp only [mem_toList, same]

theorem total_congr (weight : K → V → Nat) {first second : TreeMap K V cmp}
    (same : ∀ key : K, first[key]? = second[key]?) : total weight first = total weight second :=
  ((perm_toList same).map _).sum_eq

variable [DecidableEq K]

theorem getElem?_insert (map : TreeMap K V cmp) (key other : K) (value : V) :
    (map.insert key value)[other]? = if key = other then some value else map[other]? := by
  rw [TreeMap.getElem?_insert]
  simp only [LawfulEqCmp.compare_eq_iff_eq]

theorem total_insert (weight : K → V → Nat) (map : TreeMap K V cmp) (key : K) (value : V) :
    total weight (map.insert key value) + ((map[key]?).map (weight key)).getD 0 =
      total weight map + weight key value := by
  have others (value : V) : total weight (map.insert key value) = weight key value +
      ((map.toList.filter (¬key == ·.1)).map fun entry => weight entry.1 entry.2).sum := by
    unfold total
    rw [(TreeMap.toList_insert_perm.map _).sum_eq]
    rfl
  cases present : map[key]? with
  | none =>
    have absent : map.toList.filter (¬key == ·.1) = map.toList := by
      rw [List.filter_eq_self]
      rintro ⟨found, old⟩ member
      have stored := mem_toList.mp member
      by_cases same : key = found
      next =>
        subst same
        simp [present] at stored
      next => simpa using same
    rw [others value, absent]
    simp only [total, Option.map_none, Option.getD_none]
    omega
  | some old =>
    -- Inserting the value that is already there keeps the list of entries.
    have same : total weight (map.insert key old) = total weight map := by
      have lookups (other : K) : (map.insert key old)[other]? = map[other]? := by
        rw [getElem?_insert]
        split
        next here => rw [← here, present]
        next => rfl
      exact total_congr weight lookups
    have before := others old
    have after := others value
    simp only [Option.map_some, Option.getD_some]
    omega

theorem getElem?_erase (map : TreeMap K V cmp) (key other : K) :
    (map.erase key)[other]? = if key = other then none else map[other]? := by
  rw [TreeMap.getElem?_erase]
  simp only [LawfulEqCmp.compare_eq_iff_eq]

theorem total_erase (weight : K → V → Nat) {map : TreeMap K V cmp} (present : map[key]? = some value) :
    total weight (map.erase key) + weight key value = total weight map := by
  have restored (other : K) : ((map.erase key).insert key value)[other]? = map[other]? := by
    rw [getElem?_insert, getElem?_erase]
    split
    next here => rw [← here, present]
    next => rfl
  have inserted := total_insert weight (map.erase key) key value
  rw [getElem?_erase, if_pos rfl, Option.map_none, Option.getD_none, Nat.add_zero] at inserted
  rw [← inserted]
  exact total_congr weight restored

omit [DecidableEq K] in
theorem total_le (weight : K → V → Nat) {smaller larger : TreeMap K V cmp}
    (included : ∀ (key : K) (value : V), smaller[key]? = some value → larger[key]? = some value) :
    total weight smaller ≤ total weight larger := by
  have within : smaller.toList.Subperm larger.toList := by
    apply List.subperm_of_subset (nodup_toList smaller)
    intro entry member
    exact mem_toList.mpr (included entry.1 entry.2 (mem_toList.mp member))
  obtain ⟨arranged, same, kept⟩ := within
  unfold total
  rw [← (same.map _).sum_eq]
  exact (kept.map _).sum_le_sum fun _ _ => Nat.zero_le _

omit [DecidableEq K] in
theorem weight_le_total (weight : K → V → Nat) {map : TreeMap K V cmp} (present : map[key]? = some value) :
    weight key value ≤ total weight map := by
  apply List.le_sum_of_mem
  exact List.mem_map.mpr ⟨(key, value), mem_toList.mpr present, rfl⟩

omit [DecidableEq K] in
theorem total_map (weight : K → V → Nat) (change : K → V → V) (map : TreeMap K V cmp)
    (same : ∀ (key : K) (value : V), map[key]? = some value →
      weight key (change key value) = weight key value) :
    total weight (map.map change) = total weight map := by
  simp only [total, TreeMap.toList_map, List.map_map]
  congr 1
  apply List.map_congr_left
  intro entry member
  exact same entry.1 entry.2 (mem_toList.mp member)

end OrderedMap
