import SparkX.Shared.Grouping

set_option autoImplicit false

namespace NestedLoop

variable {α β γ : Type}

def piece (pair : α → β → γ) (alone : α → List γ) (left : α) : List β → List γ
  | [] => alone left
  | found => found.map (pair left)

def join (agree : α → β → Bool) (pair : α → β → γ) (alone : α → List γ) (lefts : List α)
    (rights : List β) : List γ :=
  lefts.flatMap fun left => piece pair alone left (rights.filter (agree left))

theorem piece_map {δ : Type} (f : γ → δ) (pair : α → β → γ) (alone : α → List γ) (left : α)
    (found : List β) :
    (piece pair alone left found).map f =
      piece (fun left right => f (pair left right)) (fun left => (alone left).map f) left found := by
  cases found with
  | nil => rfl
  | cons => exact List.map_map

theorem alone_le_piece {pair : α → β → γ} {alone : α → List γ} {left : α} (once : (alone left).length ≤ 1)
    (found : List β) : (piece pair alone left []).length ≤ (piece pair alone left found).length := by
  cases found with
  | nil => exact Nat.le_refl _
  | cons first rest => exact Nat.le_trans once (by simp [piece])

theorem join_append (agree : α → β → Bool) (pair : α → β → γ) (alone : α → List γ)
    (first second : List α) (rights : List β) :
    join agree pair alone (first ++ second) rights =
      join agree pair alone first rights ++ join agree pair alone second rights :=
  List.flatMap_append

theorem flatMap_eq_iff {f g : α → List γ} {items : List α}
    (longer : ∀ item ∈ items, (g item).length ≤ (f item).length) :
    items.flatMap f = items.flatMap g ↔ ∀ item ∈ items, f item = g item := by
  constructor
  · intro same
    induction items with
    | nil => intro item member; cases member
    | cons item rest ih =>
      have ⟨here, later⟩ := List.forall_mem_cons.mp longer
      have total : (rest.flatMap g).length ≤ (rest.flatMap f).length := by
        rw [List.length_flatMap, List.length_flatMap]
        exact List.sum_le_sum later
      have lengths := congrArg List.length same
      simp only [List.flatMap_cons, List.length_append] at lengths same
      have ⟨head, tail⟩ := List.append_inj same (by omega)
      exact List.forall_mem_cons.mpr ⟨head, ih later tail⟩
  · exact List.flatMap_congr

theorem join_labelled {agree : α → β → Bool} {pair : α → β → γ} {alone : α → List γ} {lefts : List α}
    {rights : List β} {label : α → Nat} {mark : β → Nat} {count : Nat}
    (below : ∀ left ∈ lefts, label left < count)
    (together : ∀ left ∈ lefts, ∀ right ∈ rights, agree left right = true → label left = mark right) :
    ((List.range count).flatMap fun destination => join agree pair alone
      (lefts.filter (label · = destination)) (rights.filter (mark · = destination))).Perm
        (join agree pair alone lefts rights) := by
  have whole := (Grouping.perm_labelled below).flatMap_right fun left =>
    piece pair alone left (rights.filter (agree left))
  rw [List.flatMap_assoc] at whole
  refine (List.Perm.of_eq ?_).trans whole
  refine List.flatMap_congr fun destination _ => List.flatMap_congr fun left member => ?_
  obtain ⟨present, labelled⟩ := List.mem_filter.mp member
  -- Where the left item is, all that it agrees with are.
  rw [List.filter_filter, List.filter_congr fun right inside => ?_]
  cases agreed : agree left right with
  | false => rfl
  | true => rwa [← together left present right inside agreed]

end NestedLoop
