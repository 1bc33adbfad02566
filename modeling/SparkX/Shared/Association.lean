import SparkX.Shared.Stateful

set_option autoImplicit false

structure Association (κ ν : Type) [LinearOrder κ] where
  entries : List (κ × ν)
  sorted : entries.Pairwise (·.1 < ·.1)
deriving DecidableEq

namespace Association

variable {κ ν : Type} [LinearOrder κ]

def empty : Association κ ν := { entries := [], sorted := .nil }

theorem eq_of_perm {first second : Association κ ν} (same : first.entries.Perm second.entries) :
    first = second := by
  have entries : first.entries = second.entries := by
    refine same.eq_of_pairwise ?_ first.sorted second.sorted
    intro left right _ _ less more
    exact absurd (less.trans more) (lt_irrefl _)
  cases first
  cases second
  simp_all

def place (key : κ) (value : ν) : List (κ × ν) → List (κ × ν)
  | [] => [(key, value)]
  | entry :: rest => if key < entry.1 then (key, value) :: entry :: rest else entry :: place key value rest

theorem place_perm (key : κ) (value : ν) (entries : List (κ × ν)) :
    (place key value entries).Perm ((key, value) :: entries) := by
  induction entries with
  | nil => exact .refl _
  | cons entry rest ih =>
    unfold place
    split
    · exact .refl _
    · exact (ih.cons entry).trans (.swap _ _ _)

theorem place_sorted {key : κ} (value : ν) {entries : List (κ × ν)}
    (sorted : entries.Pairwise (·.1 < ·.1)) (absent : ∀ entry ∈ entries, entry.1 ≠ key) :
    (place key value entries).Pairwise (·.1 < ·.1) := by
  induction entries with
  | nil => exact List.pairwise_singleton _ _
  | cons entry rest ih =>
    obtain ⟨first, later⟩ := List.pairwise_cons.mp sorted
    unfold place
    split
    next before =>
      refine List.pairwise_cons.mpr ⟨?_, sorted⟩
      intro other member
      rcases List.mem_cons.mp member with rfl | inside
      · exact before
      · exact before.trans (first other inside)
    next after =>
      refine List.pairwise_cons.mpr ⟨?_, ih later fun other member => absent other (by simp [member])⟩
      intro other member
      rcases List.mem_cons.mp ((place_perm key value rest).mem_iff.mp member) with rfl | inside
      · exact lt_of_le_of_ne (not_lt.mp after) (absent entry (by simp))
      · exact first other inside

def insertNew (map : Association κ ν) (key : κ) (value : ν) : Option (Association κ ν) :=
  if absent : ∀ entry ∈ map.entries, entry.1 ≠ key then
    some { entries := place key value map.entries, sorted := place_sorted value map.sorted absent }
  else none

theorem insertNew_eq_some {map larger : Association κ ν} {key : κ} {value : ν} :
    map.insertNew key value = some larger ↔ larger.entries.Perm ((key, value) :: map.entries) := by
  unfold insertNew
  split
  next absent =>
    rw [Option.some.injEq]
    constructor
    · rintro rfl
      exact place_perm key value map.entries
    · intro same
      exact eq_of_perm ((place_perm key value map.entries).trans same.symm)
  next present =>
    refine ⟨nofun, fun same => absurd ?_ present⟩
    -- The keys of `larger` differ, so the new one is not among the old ones.
    have distinct : ((key, value) :: map.entries).Pairwise (·.1 ≠ ·.1) :=
      same.pairwise_iff (fun differ => differ.symm) |>.mp (larger.sorted.imp fun less => less.ne)
    exact fun entry member => ((List.pairwise_cons.mp distinct).1 entry member).symm

-- The map with the given entries, or the first key that appears a second time.
def ofEntries : Association κ ν → List (κ × ν) → Except κ (Association κ ν)
  | map, [] => .ok map
  | map, (key, value) :: rest =>
    match map.insertNew key value with
    | some larger => ofEntries larger rest
    | none => .error key

theorem ofEntries_ok {map result : Association κ ν} {entries : List (κ × ν)} :
    map.ofEntries entries = .ok result ↔ result.entries.Perm (map.entries ++ entries) := by
  induction entries generalizing map with
  | nil =>
    rw [ofEntries, List.append_nil, Except.ok.injEq]
    exact ⟨fun same => same ▸ .refl _, fun same => (eq_of_perm same).symm⟩
  | cons entry rest ih =>
    obtain ⟨key, value⟩ := entry
    rw [ofEntries]
    split
    next larger inserted =>
      have grown := insertNew_eq_some.mp inserted
      rw [ih]
      have moved : (larger.entries ++ rest).Perm (map.entries ++ (key, value) :: rest) :=
        (grown.append_right rest).trans List.perm_middle.symm
      exact ⟨fun same => same.trans moved, fun same => same.trans moved.symm⟩
    next refused =>
      refine ⟨nofun, fun same => ?_⟩
      have distinct : ((key, value) :: (map.entries ++ rest)).Pairwise (·.1 ≠ ·.1) :=
        (same.trans List.perm_middle).pairwise_iff (fun differ => differ.symm) |>.mp
          (result.sorted.imp fun less => less.ne)
      have absent : ∀ entry ∈ map.entries, entry.1 ≠ key := fun entry member =>
        ((List.pairwise_cons.mp distinct).1 entry (List.mem_append_left _ member)).symm
      rw [insertNew, dif_pos absent] at refused
      cases refused

end Association
