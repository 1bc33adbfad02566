import SparkX.Shared.OrderedMap

set_option autoImplicit false

open Std

namespace Quota

variable {K V : Type} {cmp : K → K → Ordering} {size : V → Nat} {capacity used : Nat}
  {items : TreeMap K V cmp} {key : K} {item : V}

structure Balanced (size : V → Nat) (capacity used : Nat) (items : TreeMap K V cmp) : Prop where
  charged : used = OrderedMap.total (fun _ => size) items
  bounded : used ≤ capacity

structure Accounted (size : V → Nat) (capacity used : Nat) (items : TreeMap K V cmp) : Prop where
  charged : used = OrderedMap.total (fun _ => size) items
  bounded : used ≤ capacity
  positive : ∀ (key : K) (item : V), items[key]? = some item → 0 < size item

theorem Accounted.balanced (accounted : Accounted size capacity used items) :
    Balanced size capacity used items :=
  ⟨accounted.charged, accounted.bounded⟩

theorem balanced_empty (capacity : Nat) : Balanced size capacity 0 (∅ : TreeMap K V cmp) :=
  ⟨rfl, Nat.zero_le capacity⟩

variable [TransCmp cmp]

theorem accounted_empty (capacity : Nat) : Accounted size capacity 0 (∅ : TreeMap K V cmp) where
  charged := rfl
  bounded := Nat.zero_le capacity
  positive := by simp

variable [LawfulEqCmp cmp] [DecidableEq K]

theorem Balanced.insert (balanced : Balanced size capacity used items)
    (fresh : items[key]? = none) (fits : size item ≤ capacity - used) :
    Balanced size capacity (used + size item) (items.insert key item) where
  charged := by
    have total := OrderedMap.total_insert (fun _ => size) items key item
    rw [fresh, Option.map_none, Option.getD_none, Nat.add_zero] at total
    rw [total, balanced.charged]
  bounded := by
    have bounded := balanced.bounded
    omega

theorem Balanced.erase (balanced : Balanced size capacity used items) (stored : items[key]? = some item) :
    Balanced size capacity (used - size item) (items.erase key) where
  charged := by
    have total := OrderedMap.total_erase (fun _ => size) stored
    rw [balanced.charged]
    omega
  bounded := by
    have bounded := balanced.bounded
    omega

omit [DecidableEq K] in
theorem Balanced.covered (balanced : Balanced size capacity used items)
    (stored : items[key]? = some item) : size item ≤ used := by
  rw [balanced.charged]
  exact OrderedMap.weight_le_total (fun _ => size) stored

theorem Accounted.insert (accounted : Accounted size capacity used items)
    (fresh : items[key]? = none) (fits : size item ≤ capacity - used) (positive : 0 < size item) :
    Accounted size capacity (used + size item) (items.insert key item) where
  charged := (accounted.balanced.insert fresh fits).charged
  bounded := (accounted.balanced.insert fresh fits).bounded
  positive other found stored := by
    rw [OrderedMap.getElem?_insert] at stored
    split at stored
    next =>
      cases stored
      exact positive
    next => exact accounted.positive other found stored

omit [DecidableEq K] in
theorem Accounted.covered (accounted : Accounted size capacity used items)
    (stored : items[key]? = some item) : size item ≤ used :=
  accounted.balanced.covered stored

theorem Accounted.erase (accounted : Accounted size capacity used items)
    (stored : items[key]? = some item) :
    Accounted size capacity (used - size item) (items.erase key) where
  charged := (accounted.balanced.erase stored).charged
  bounded := (accounted.balanced.erase stored).bounded
  positive other found remaining := by
    rw [OrderedMap.getElem?_erase] at remaining
    split at remaining
    next => exact nomatch remaining
    next => exact accounted.positive other found remaining

-- A step of the store; the only item that it may give up is the one of `target`.
inductive Step (size : V → Nat) (capacity used : Nat) (items : TreeMap K V cmp) (target : Option K) :
    Nat → TreeMap K V cmp → Prop where
  | same : Step size capacity used items target used items
  | insert {key : K} {item : V} (fresh : items[key]? = none) (fits : size item ≤ capacity - used)
    (positive : 0 < size item) :
    Step size capacity used items target (used + size item) (items.insert key item)
  | erase {key : K} {item : V} (named : target = some key) (stored : items[key]? = some item) :
    Step size capacity used items target (used - size item) (items.erase key)

theorem Step.accounted {target : Option K} {used' : Nat} {items' : TreeMap K V cmp}
    (step : Step size capacity used items target used' items')
    (accounted : Accounted size capacity used items) : Accounted size capacity used' items' := by
  cases step with
  | same => exact accounted
  | insert fresh fits positive => exact accounted.insert fresh fits positive
  | erase _ stored => exact accounted.erase stored

theorem Step.keeps {target : Option K} {used' : Nat} {items' : TreeMap K V cmp}
    (step : Step size capacity used items target used' items') (spared : target ≠ some key)
    (stored : items[key]? = some item) : items'[key]? = some item := by
  cases step with
  | same => exact stored
  | @insert other _ fresh _ _ =>
    have different : other ≠ key := by
      rintro rfl
      exact nomatch fresh.symm.trans stored
    rw [OrderedMap.getElem?_insert, if_neg different, stored]
  | @erase other _ named _ =>
    have different : other ≠ key := by
      rintro rfl
      exact spared named
    rw [OrderedMap.getElem?_erase, if_neg different, stored]

theorem Accounted.share (accounted : Accounted size capacity used items)
    (stored : items[key]? = some item) :
    capacity - used + size item + OrderedMap.total (fun _ => size) (items.erase key) = capacity := by
  have total := OrderedMap.total_erase (fun _ => size) stored
  have charged := accounted.charged
  have bounded := accounted.bounded
  omega

end Quota
