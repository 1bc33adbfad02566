import SparkX.Shared.Word

set_option autoImplicit false

structure Binary64 where
  bits : U64
deriving DecidableEq

namespace Binary64

def isNegative (x : Binary64) : Bool := 2 ^ 63 ≤ x.bits.val

def magnitude (x : Binary64) : Nat := x.bits.val % 2 ^ 63

def infinite : Nat := 2047 * 2 ^ 52

def isNan (x : Binary64) : Bool := infinite < x.magnitude

def number (x : Binary64) : Int := if x.isNegative then -x.magnitude else x.magnitude

-- `f64::total_cmp`
def place (x : Binary64) : Int := if x.isNegative then -x.magnitude - 1 else x.magnitude

def totalCompare (x y : Binary64) : Ordering := compare x.place y.place

-- `f64::partial_cmp`
def partialCompare (x y : Binary64) : Option Ordering :=
  if x.isNan || y.isNan then none else some (compare x.number y.number)

def infinity : Binary64 := ⟨⟨infinite, by decide⟩⟩

def negativeInfinity : Binary64 := ⟨⟨2 ^ 63 + infinite, by decide⟩⟩

def toFloat (x : Binary64) : Float := Float.ofBits (UInt64.ofNat x.bits.val)

def ofFloat (x : Float) : Binary64 := ⟨⟨x.toBits.toNat, x.toBits.toNat_lt⟩⟩

variable {x y : Binary64}

theorem partialCompare_eq_some {found : Ordering} :
    partialCompare x y = some found ↔
      x.isNan = false ∧ y.isNan = false ∧ compare x.number y.number = found := by
  unfold partialCompare
  split
  next missing =>
    rw [Bool.or_eq_true] at missing
    refine ⟨nofun, fun ⟨first, second, _⟩ => ?_⟩
    rw [first, second] at missing
    simp at missing
  next numbers => simp_all

theorem eq_of_place_eq (same : x.place = y.place) : x = y := by
  obtain ⟨⟨first, firstFits⟩⟩ := x
  obtain ⟨⟨second, secondFits⟩⟩ := y
  unfold place isNegative magnitude at same
  congr
  split at same <;> split at same <;> simp_all <;> omega

theorem abs_number_le (real : x.isNan = false) : -infinite ≤ x.number ∧ x.number ≤ infinite := by
  have bound : x.magnitude ≤ infinite := by simpa [isNan] using real
  unfold number
  split <;> omega

theorem number_le_infinity (real : x.isNan = false) : x.number ≤ infinity.number := (abs_number_le real).2

theorem negativeInfinity_le_number (real : x.isNan = false) : negativeInfinity.number ≤ x.number :=
  (abs_number_le real).1

theorem eq_infinity (extreme : infinity.number ≤ x.number) (real : x.isNan = false) : x = infinity := by
  have same : x.number = infinite := Int.le_antisymm (abs_number_le real).2 extreme
  refine eq_of_place_eq (?_ : x.place = infinite)
  unfold number at same
  unfold place
  split at same
  next => exact absurd same (by unfold infinite; omega)
  next positive => rw [if_neg positive, same]

theorem eq_negativeInfinity (extreme : x.number ≤ negativeInfinity.number) (real : x.isNan = false) :
    x = negativeInfinity := by
  have same : x.number = -infinite := Int.le_antisymm extreme (abs_number_le real).1
  refine eq_of_place_eq (?_ : x.place = -infinite - 1)
  unfold number at same
  unfold place
  split at same
  next negative => rw [if_pos negative, same]
  next => exact absurd same (by unfold infinite; omega)

theorem exists_extreme (measure : Binary64 → Int) (values : List Binary64) {fallback : Binary64}
    (real : fallback.isNan = false) : ∃ best : Binary64, best.isNan = false ∧
      (∀ x ∈ values, x.isNan = false → measure best ≤ measure x) ∧ (best ∈ values ∨ best = fallback) := by
  have kept {x : Binary64} (member : x ∈ values) (real : x.isNan = false) :
      x ∈ values.filter fun x => !x.isNan := List.mem_filter.mpr ⟨member, by simp [real]⟩
  cases found : (values.filter fun x => !x.isNan).argmin measure with
  | none =>
    refine ⟨fallback, real, fun x member real => ?_, .inr rfl⟩
    have none := kept member real
    rw [List.argmin_eq_none.mp found] at none
    cases none
  | some best =>
    obtain ⟨member, real⟩ := List.mem_filter.mp (List.argmin_mem found)
    refine ⟨best, by simpa using real, fun x member real => ?_, .inl member⟩
    exact List.le_of_mem_argmin (kept member real) found

end Binary64
