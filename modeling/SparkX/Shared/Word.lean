import Mathlib

set_option autoImplicit false

abbrev Word (w : Nat) := Fin (2 ^ w)

abbrev U16 := Word 16
abbrev U32 := Word 32
abbrev U64 := Word 64

namespace Word

-- Numerals of these widths then mean the same term everywhere.
instance neZero16 : NeZero (2 ^ 16) := ⟨by decide⟩
instance neZero32 : NeZero (2 ^ 32) := ⟨by decide⟩
instance neZero64 : NeZero (2 ^ 64) := ⟨by decide⟩

variable {w : Nat}

def saturatingAdd (a b : Word w) : Word w :=
  ⟨min (a.val + b.val) (2 ^ w - 1), by have := Nat.two_pow_pos w; omega⟩

def saturatingSub (a b : Word w) : Word w :=
  ⟨a.val - b.val, by omega⟩

def checkedAdd (a b : Word w) : Option (Word w) :=
  if h : a.val + b.val < 2 ^ w then some ⟨a.val + b.val, h⟩ else none

def checkedSub (a b : Word w) : Option (Word w) :=
  if b.val ≤ a.val then some ⟨a.val - b.val, by omega⟩ else none

def tryFrom (n : Nat) : Option (Word w) :=
  if h : n < 2 ^ w then some ⟨n, h⟩ else none

-- `n as u32`, for a `usize` and any width
def truncate (n : Nat) : Word w := ⟨n % 2 ^ w, Nat.mod_lt n (Nat.two_pow_pos w)⟩

def maxValue : Word w := ⟨2 ^ w - 1, by have := Nat.two_pow_pos w; omega⟩

@[simp] theorem val_saturatingAdd (a b : Word w) :
    (saturatingAdd a b).val = min (a.val + b.val) (2 ^ w - 1) := rfl

@[simp] theorem val_saturatingSub (a b : Word w) :
    (saturatingSub a b).val = a.val - b.val := rfl

theorem val_truncate {n : Nat} (small : n < 2 ^ w) : (truncate n : Word w).val = n :=
  Nat.mod_eq_of_lt small

theorem checkedAdd_eq_some {a b sum : Word w} :
    checkedAdd a b = some sum ↔ sum.val = a.val + b.val := by
  unfold checkedAdd
  split
  next fits => simp [Fin.ext_iff, eq_comm]
  next fits =>
    have := sum.isLt
    simp only [reduceCtorEq, false_iff]
    omega

theorem checkedSub_eq_some {a b difference : Word w} :
    checkedSub a b = some difference ↔ a.val = b.val + difference.val := by
  unfold checkedSub
  split
  next covered =>
    simp only [Option.some.injEq, Fin.ext_iff]
    omega
  next covered =>
    simp only [reduceCtorEq, false_iff]
    omega

theorem tryFrom_eq_some {n : Nat} {word : Word w} :
    tryFrom n = some word ↔ word.val = n := by
  unfold tryFrom
  split
  next fits => simp [Fin.ext_iff, eq_comm]
  next fits =>
    have := word.isLt
    simp only [reduceCtorEq, false_iff]
    omega

end Word

@[ext]
structure Signed (w : Nat) where
  value : Int
  lower : -2 ^ (w - 1) ≤ value
  upper : value < 2 ^ (w - 1)
deriving DecidableEq

abbrev I32 := Signed 32
abbrev I64 := Signed 64

namespace Signed

def tryFrom {w : Nat} (value : Int) : Option (Signed w) :=
  if fits : -2 ^ (w - 1) ≤ value ∧ value < 2 ^ (w - 1) then some ⟨value, fits.1, fits.2⟩ else none

theorem tryFrom_value {w : Nat} (number : Signed w) : tryFrom number.value = some number :=
  dif_pos ⟨number.lower, number.upper⟩

-- `i32 as i64`
def widen (number : I32) : I64 where
  value := number.value
  lower := Int.le_trans (by decide) number.lower
  upper := Int.lt_of_lt_of_le number.upper (by decide)

-- `i64 as i32`
def narrow (number : I64) : I32 where
  value := Int.bmod number.value (2 ^ 32)
  lower := Int.le_trans (by decide) (Int.le_bmod (x := number.value) (m := 2 ^ 32) (by decide))
  upper := Int.lt_of_lt_of_le (Int.bmod_lt (x := number.value) (m := 2 ^ 32) (by decide)) (by decide)

theorem narrow_widen (number : I32) : number.widen.narrow = number := by
  have lower := number.lower
  have upper := number.upper
  have same : Int.bmod number.value (2 ^ 32) = number.value :=
    Int.bmod_eq_of_le (by simpa using lower) (by simpa using upper)
  exact Signed.ext same

end Signed
