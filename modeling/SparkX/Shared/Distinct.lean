import Mathlib

set_option autoImplicit false

namespace Distinct

variable {α : Type} [DecidableEq α]

-- `Vec::dedup`
def dedup : List α → List α
  | [] => []
  | [item] => [item]
  | item :: next :: rest => if item = next then dedup (next :: rest) else item :: dedup (next :: rest)

variable {items : List α}

theorem mem_dedup {item : α} : item ∈ dedup items ↔ item ∈ items := by
  fun_induction dedup items with
  | case1 => exact Iff.rfl
  | case2 => exact Iff.rfl
  | case3 item rest ih => simp [ih]
  | case4 item next rest _ ih => simp [ih]

theorem nodup_dedup {le : α → α → Prop}
    (antisymm : ∀ first second, le first second → le second first → first = second)
    (sorted : items.Pairwise le) : (dedup items).Nodup := by
  fun_induction dedup items with
  | case1 => exact List.nodup_nil
  | case2 => exact List.nodup_singleton _
  | case3 item rest ih => exact ih sorted.of_cons
  | case4 item next rest different ih =>
    refine List.nodup_cons.mpr ⟨?_, ih sorted.of_cons⟩
    rw [mem_dedup]
    intro again
    -- An item that comes again after a different one would be above and below that one.
    have below := List.rel_of_pairwise_cons sorted List.mem_cons_self
    rcases List.mem_cons.mp again with same | later
    · exact different same
    · exact different (antisymm _ _ below (List.rel_of_pairwise_cons sorted.of_cons later))

end Distinct
