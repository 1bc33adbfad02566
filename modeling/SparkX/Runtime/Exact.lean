import SparkX.Runtime.Aggregate
import SparkX.Shared.Grouping

set_option autoImplicit false

namespace SparkX

-- Floating-point numbers idealised as rational numbers.
class ExactFloats (F : Type) [FloatOps F] where
  number : F ≃ ℚ
  number_add : ∀ left right, number (FloatOps.add left right) = number left + number right
  number_ofInt : ∀ value : Int, number (FloatOps.ofInt value) = value
  totalCompare_eq : ∀ left right : F,
    FloatOps.totalCompare left right = compare (number left) (number right)
  partialCompare_eq : ∀ left right : F,
    FloatOps.partialCompare left right = some (compare (number left) (number right))
  narrow_eq : ∀ value : F, FloatOps.narrow value = value

instance : ExactFloats ℚ where
  number := .refl ℚ
  number_add _ _ := rfl
  number_ofInt _ := rfl
  totalCompare_eq _ _ := rfl
  partialCompare_eq _ _ := rfl
  narrow_eq _ := rfl

-- The total order of floating-point numbers, told by places on a line.
class OrderedFloats (F : Type) [FloatOps F] where
  place : F → ℚ
  place_injective : Function.Injective place
  totalCompare_place : ∀ left right : F,
    FloatOps.totalCompare left right = compare (place left) (place right)

instance (F : Type) [FloatOps F] [ExactFloats F] : OrderedFloats F where
  place := ExactFloats.number
  place_injective := ExactFloats.number.injective
  totalCompare_place := ExactFloats.totalCompare_eq

abbrev Rank := ℕ ×ₗ ℚ ×ₗ String ×ₗ List ℕ

def Rank.of (kind : ℕ) (number : ℚ) (text : String) (bytes : List ℕ) : Rank :=
  toLex (kind, toLex (number, toLex (text, bytes)))

section

variable {α β : Type} [LinearOrder α] [LinearOrder β]

def order (left right : α) : Ordering := cmp left right

variable {left right : α}

theorem order_lt (less : left < right) : order left right = .lt := (cmp_eq_lt_iff _ _).mpr less

theorem order_gt (more : right < left) : order left right = .gt := (cmp_eq_gt_iff _ _).mpr more

@[simp] theorem order_self (value : α) : order value value = .eq := cmp_self_eq_eq value

theorem order_eq_lt : order left right = .lt ↔ left < right := cmp_eq_lt_iff _ _

theorem order_eq_gt : order left right = .gt ↔ right < left := cmp_eq_gt_iff _ _

theorem order_map {map : α → β} (mono : StrictMono map) (left right : α) :
    order (map left) (map right) = order left right :=
  mono.cmp_map_eq left right

theorem order_toLex (leftFirst rightFirst : α) (leftSecond rightSecond : β) :
    order (toLex (leftFirst, leftSecond)) (toLex (rightFirst, rightSecond)) =
      (order leftFirst rightFirst).then (order leftSecond rightSecond) := by
  rcases lt_trichotomy leftFirst rightFirst with less | rfl | more
  · rw [order_lt less, order_lt (Prod.Lex.toLex_lt_toLex.mpr (.inl less))]
    rfl
  · have mono : StrictMono fun second : β => toLex (leftFirst, second) :=
      fun _ _ less => Prod.Lex.toLex_lt_toLex.mpr (.inr ⟨rfl, less⟩)
    rw [order_self, Ordering.eq_then]
    exact order_map mono leftSecond rightSecond
  · rw [order_gt more, order_gt (Prod.Lex.toLex_lt_toLex.mpr (.inl more))]
    rfl

theorem order_cons (left right : α) (leftRest rightRest : List α) :
    order (left :: leftRest) (right :: rightRest) = (order left right).then (order leftRest rightRest) := by
  rcases lt_trichotomy left right with less | rfl | more
  · rw [order_lt less, order_lt (List.cons_lt_cons_iff.mpr (.inl less))]
    rfl
  · have mono : StrictMono fun rest : List α => left :: rest :=
      fun _ _ less => List.cons_lt_cons_iff.mpr (.inr ⟨rfl, less⟩)
    rw [order_self, Ordering.eq_then]
    exact order_map mono leftRest rightRest
  · rw [order_gt more, order_gt (List.cons_lt_cons_iff.mpr (.inl more))]
    rfl

end

theorem Rank.order_of (leftKind rightKind : ℕ) (leftNumber rightNumber : ℚ)
    (leftText rightText : String) (leftBytes rightBytes : List ℕ) :
    order (Rank.of leftKind leftNumber leftText leftBytes)
        (Rank.of rightKind rightNumber rightText rightBytes) =
      (order leftKind rightKind).then ((order leftNumber rightNumber).then
        ((order leftText rightText).then (order leftBytes rightBytes))) := by
  rw [Rank.of, Rank.of, order_toLex, order_toLex, order_toLex]

theorem compare_rat (left right : ℚ) : compare left right = order left right := (cmp_eq_compare _ _).symm

theorem compare_text (left right : String) : compare left right = order left right :=
  (cmp_eq_compare _ _).symm

theorem compare_int (left right : Int) : compare left right = order (left : ℚ) (right : ℚ) := by
  have mono : StrictMono fun value : Int => (value : ℚ) := fun _ _ less => Int.cast_lt.mpr less
  rw [order_map mono]
  exact (cmp_eq_compare _ _).symm

theorem compare_word {w : Nat} (left right : Word w) :
    compare left right = order (left.val : ℚ) (right.val : ℚ) := by
  have mono : StrictMono fun word : Fin (2 ^ w) => ((word.val : ℕ) : ℚ) :=
    fun _ _ less => Nat.cast_lt.mpr less
  rw [order_map mono]
  exact (cmp_eq_compare _ _).symm

def bitNumber (bit : Bool) : ℚ := if bit then 1 else 0

theorem compare_bool (left right : Bool) :
    compare left right = order (bitNumber left) (bitNumber right) := by
  cases left <;> cases right <;> decide

theorem compare_bytes (left right : List UInt8) :
    compare left right = order (left.map UInt8.toNat) (right.map UInt8.toNat) := by
  induction left generalizing right with
  | nil =>
    cases right with
    | nil => exact (order_self _).symm
    | cons byte rest => exact (order_lt (List.nil_lt_cons _ _)).symm
  | cons byte rest ih =>
    cases right with
    | nil => exact (order_gt (List.nil_lt_cons _ _)).symm
    | cons other others =>
      have first : compare byte other = order byte.toNat other.toNat := by
        refine Eq.trans ?_ (cmp_eq_compare _ _).symm
        change compareOfLessAndEq byte other = compareOfLessAndEq byte.toNat other.toNat
        simp [compareOfLessAndEq, UInt8.lt_iff_toNat_lt, UInt8.toNat_inj]
      rw [List.compare_cons_cons, first, ih, List.map_cons, List.map_cons, order_cons]

variable {F : Type} [FloatOps F] [OrderedFloats F]

open OrderedFloats

namespace Value

def rank : Value F → Rank
  | .null => .of 0 0 "" []
  | .boolean value => .of 1 (bitNumber value) "" []
  | .int32 value => .of 2 value.value "" []
  | .int64 value => .of 3 value.value "" []
  | .uint32 value => .of 4 value.val "" []
  | .uint64 value => .of 5 value.val "" []
  | .float32 value => .of 6 (place value) "" []
  | .float64 value => .of 7 (place value) "" []
  | .utf8 value => .of 8 0 value []
  | .other encoded => .of 9 0 "" (encoded.map UInt8.toNat)

theorem rank_injective : Function.Injective (rank : Value F → Rank) := by
  intro left right same
  cases left <;> cases right <;> simp [rank, Rank.of] at same ⊢
  case boolean.boolean left right => cases left <;> cases right <;> simp [bitNumber] at same ⊢
  case int32.int32 | int64.int64 => exact Signed.ext same
  case uint32.uint32 | uint64.uint64 => exact Fin.ext same
  case float32.float32 | float64.float64 => exact place_injective same
  case other.other => exact List.map_injective_iff.mpr (fun _ _ => UInt8.toNat_inj.mp) same
  all_goals exact same

theorem compare_null_left (value : Value F) :
    (null : Value F).compare value = order (null : Value F).rank value.rank := by
  cases value with
  | null => exact (order_self _).symm
  | _ =>
    rw [rank, rank, Rank.order_of]
    rfl

theorem compare_null_right (value : Value F) :
    value.compare (null : Value F) = order value.rank (null : Value F).rank := by
  cases value with
  | null => exact compare_null_left null
  | _ =>
    rw [rank, rank, Rank.order_of]
    rfl

theorem compare_eq_rank {left right : Value F} {dataType : DataType}
    (leftTyped : left.hasType dataType = true) (rightTyped : right.hasType dataType = true) :
    left.compare right = order left.rank right.rank := by
  by_cases leftNull : left = null
  · rw [leftNull]
    exact compare_null_left right
  by_cases rightNull : right = null
  · rw [rightNull]
    exact compare_null_right left
  -- The type leaves one constructor for both values.
  cases dataType <;> cases left <;> first | exact absurd rfl leftNull | cases leftTyped
  all_goals cases right <;> first | exact absurd rfl rightNull | cases rightTyped
  all_goals simp [compare, rank, Rank.order_of, compare_bool, compare_int, compare_word, compare_bytes,
    compare_rat, compare_text, totalCompare_place]

end Value

section

def KeyTyped (types : List DataType) (key : EncodedKey F) : Prop :=
  List.Forall₂ (fun dataType value => value.hasType dataType = true) types key

variable {types : List DataType}

theorem compareKeys_eq_rank {left right : EncodedKey F} (leftTyped : KeyTyped types left)
    (rightTyped : KeyTyped types right) :
    compareKeys left right = order (left.map Value.rank) (right.map Value.rank) := by
  induction leftTyped generalizing right with
  | nil =>
    cases rightTyped
    exact (order_self _).symm
  | cons here _ ih =>
    cases rightTyped with
    | cons there rest =>
      rw [compareKeys, Value.compare_eq_rank here there, ih rest, List.map_cons, List.map_cons, order_cons]

variable {ο : Type}

theorem compareKeys_le {groups : List (EncodedKey F × ο)} (typed : ∀ entry ∈ groups, KeyTyped types entry.1) :
    ∀ one ∈ groups, ∀ other ∈ groups,
      compareKeys one.1 other.1 ≠ .gt ↔ one.1.map Value.rank ≤ other.1.map Value.rank := by
  intro one here other there
  rw [compareKeys_eq_rank (typed one here) (typed other there), ne_eq, order_eq_gt, not_lt]

theorem sortGroups_perm {first second : List (EncodedKey F × ο)}
    (typed : ∀ entry ∈ first, KeyTyped types entry.1) (distinct : (first.map (·.1)).Nodup)
    (same : first.Perm second) :
    first.insertionSort (fun left right => compareKeys left.1 right.1 ≠ .gt) =
      second.insertionSort (fun left right => compareKeys left.1 right.1 ≠ .gt) := by
  refine Grouping.insertionSort_perm (compareKeys_le typed) (fun one here other there equal => ?_) same
  refine List.inj_on_of_nodup_map distinct here there ?_
  exact List.map_injective_iff.mpr Value.rank_injective equal

theorem sortGroups_strict {groups : List (EncodedKey F × ο)}
    (typed : ∀ entry ∈ groups, KeyTyped types entry.1) (distinct : (groups.map (·.1)).Nodup) :
    (groups.insertionSort (fun left right => compareKeys left.1 right.1 ≠ .gt)).Pairwise
      fun left right => compareKeys left.1 right.1 = .lt := by
  have ranks : (groups.map fun entry => entry.1.map Value.rank).Nodup := by
    have mapped := distinct.map (List.map_injective_iff.mpr Value.rank_injective)
    rwa [List.map_map] at mapped
  have member {entry : EncodedKey F × ο} := (List.perm_insertionSort
    (fun left right : EncodedKey F × ο => compareKeys left.1 right.1 ≠ .gt) groups).mem_iff (a := entry)
  refine (Grouping.insertionSort_strict (compareKeys_le typed) ranks).imp_of_mem fun here there less => ?_
  rwa [compareKeys_eq_rank (typed _ (member.mp here)) (typed _ (member.mp there)), order_eq_lt]

end

end SparkX
