import Mathlib

set_option autoImplicit false

namespace Code

variable {α : Type}

def read (values : List α) (code : Int) : Option α :=
  if code < 0 then none else values[code.toNat]?

variable [DecidableEq α]

def write (values : List α) (value : α) : Option Int :=
  (values.idxOf? value).map Int.ofNat

theorem write_eq_some {values : List α} (distinct : values.Nodup) {value : α} {code : Int} :
    write values value = some code ↔ read values code = some value := by
  unfold write read
  rw [Option.map_eq_some_iff]
  constructor
  · rintro ⟨index, found, rfl⟩
    obtain ⟨inside, here, _⟩ := List.idxOf?_eq_some_iff.mp found
    have natural : ¬Int.ofNat index < 0 := by simp
    rw [if_neg natural]
    change values[index]? = some value
    rw [List.getElem?_eq_getElem inside, here]
  · intro found
    by_cases negative : code < 0
    · rw [if_pos negative] at found
      cases found
    · rw [if_neg negative] at found
      obtain ⟨inside, rfl⟩ := List.getElem?_eq_some_iff.mp found
      refine ⟨code.toNat, List.idxOf?_eq_some_iff.mpr ⟨inside, by simp, ?_⟩, Int.toNat_of_nonneg (by omega)⟩
      intro earlier before same
      have equal := distinct.getElem_inj_iff.mp same
      omega

theorem idxOf_eq_iff {values : List α} (distinct : values.Nodup) {value : α}
    (listed : value ∈ values) {code : Int} :
    Int.ofNat (values.idxOf value) = code ↔ read values code = some value := by
  rw [← write_eq_some distinct, write]
  have numbered : values.idxOf? value = some (values.idxOf value) := by
    have inside := List.idxOf_lt_length_of_mem listed
    refine List.idxOf?_eq_some_iff.mpr ⟨inside, List.getElem_idxOf inside, ?_⟩
    intro earlier before same
    have equal := distinct.getElem_inj_iff.mp (same.trans (List.getElem_idxOf inside).symm)
    omega
  rw [numbered, Option.map_some, Option.some.injEq]

end Code
