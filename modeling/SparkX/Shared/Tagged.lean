import Mathlib

set_option autoImplicit false

namespace Tagged

variable {Source Name Item : Type} [DecidableEq Name]

theorem filter_flatMap (name : Source → Name) (emit : Source → List Item) (tag : Item → Name)
    {sources : List Source} (distinct : (sources.map name).Nodup)
    (tagged : ∀ source ∈ sources, ∀ item ∈ emit source, tag item = name source)
    {source : Source} (member : source ∈ sources) :
    (sources.flatMap emit).filter (fun item => tag item = name source) = emit source := by
  induction sources with
  | nil => cases member
  | cons first rest ih =>
    simp only [List.map_cons, List.nodup_cons, List.mem_map] at distinct
    have later := fun other known => tagged other (List.mem_cons_of_mem _ known)
    rw [List.flatMap_cons, List.filter_append]
    rcases List.mem_cons.mp member with rfl | elsewhere
    · have own : (emit source).filter (fun item => tag item = name source) = emit source := by
        rw [List.filter_eq_self]
        intro item emitted
        simpa using tagged source (by simp) item emitted
      have others : (rest.flatMap emit).filter (fun item => tag item = name source) = [] := by
        rw [List.filter_eq_nil_iff]
        intro item emitted
        obtain ⟨other, known, inside⟩ := List.mem_flatMap.mp emitted
        rw [later other known item inside]
        simpa using fun same => distinct.1 ⟨other, known, same⟩
      rw [own, others, List.append_nil]
    · have others : (emit first).filter (fun item => tag item = name source) = [] := by
        rw [List.filter_eq_nil_iff]
        intro item emitted
        rw [tagged first (by simp) item emitted]
        simpa using fun same => distinct.1 ⟨source, elsewhere, Eq.symm same⟩
      rw [others, List.nil_append, ih distinct.2 later elsewhere]

theorem flatMap_filter_perm (tag : Item → Name) {names : List Name} (distinct : names.Nodup)
    {items : List Item} (known : ∀ item ∈ items, tag item ∈ names) :
    (names.flatMap fun name => items.filter fun item => tag item = name).Perm items := by
  induction names generalizing items with
  | nil =>
    cases items with
    | nil => exact .refl _
    | cons item rest => cases known item (by simp)
  | cons name rest ih =>
    obtain ⟨fresh, distinct⟩ := List.nodup_cons.mp distinct
    let others := items.filter fun item => !decide (tag item = name)
    have narrowed : ∀ other ∈ rest, (items.filter fun item => tag item = other) =
        others.filter fun item => tag item = other := by
      intro other member
      rw [List.filter_filter]
      apply List.filter_congr
      intro item _
      by_cases same : tag item = other
      · have apart : tag item ≠ name := fun equal => fresh (equal ▸ same ▸ member)
        simp [same, same ▸ apart]
      · simp [same]
    have remaining : ∀ item ∈ others, tag item ∈ rest := by
      intro item member
      simp only [others, List.mem_filter, Bool.not_eq_true', decide_eq_false_iff_not] at member
      exact (List.mem_cons.mp (known item member.1)).resolve_left member.2
    have sorted := ih distinct remaining
    rw [List.flatMap_cons, List.flatMap_congr narrowed]
    exact (sorted.append_left _).trans (List.filter_append_perm _ items)

theorem filter_eq_singleton (tag : Item → Nat) {items : List Item} {count : Nat}
    (length : items.length = count) (distinct : (items.map tag).Nodup)
    (bounded : ∀ item ∈ items, tag item < count) {wanted : Nat} (inside : wanted < count) :
    ∃ item, items.filter (fun item => tag item = wanted) = [item] := by
  have everything : (items.map tag).Perm (List.range count) := by
    have subset : items.map tag ⊆ List.range count := by
      intro found member
      obtain ⟨item, listed, rfl⟩ := List.mem_map.mp member
      exact List.mem_range.mpr (bounded item listed)
    apply (List.subperm_of_subset distinct subset).perm_of_length_le
    simp [length]
  have present : wanted ∈ items.map tag := everything.mem_iff.mpr (List.mem_range.mpr inside)
  have once : ((items.filter fun item => tag item = wanted).map tag).length = 1 := by
    have counted : (items.map tag).count wanted = 1 := List.count_eq_one_of_mem distinct present
    rw [List.count, List.countP_map, List.countP_eq_length_filter] at counted
    rw [List.length_map, ← counted]
    congr 1
  rw [List.length_map, List.length_eq_one_iff] at once
  exact once

end Tagged
