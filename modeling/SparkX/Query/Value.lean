import SparkX.Error
import SparkX.Shared.Word

set_option autoImplicit false

-- The engine computes on Arrow arrays and, where it leaves Arrow, on `ScalarValue`. A `Value` is
-- one slot of an array. Everything is generic in the type `F` that stands for `f64`: the bit
-- patterns of the machine, or exact numbers where rounding is left out.

namespace SparkX

-- The Arrow types that the engine names; all the others it can only pass on.
inductive DataType where
  | null
  | boolean
  | int32
  | int64
  | uint32
  | uint64
  | float32
  | float64
  | utf8
  | other (name : String)
deriving DecidableEq, Repr

namespace DataType

def toText : DataType → String
  | .null => "Null"
  | .boolean => "Boolean"
  | .int32 => "Int32"
  | .int64 => "Int64"
  | .uint32 => "UInt32"
  | .uint64 => "UInt64"
  | .float32 => "Float32"
  | .float64 => "Float64"
  | .utf8 => "Utf8"
  | .other name => name

def isNumeric : DataType → Bool
  | .int32 | .int64 | .uint32 | .uint64 | .float32 | .float64 => true
  | _ => false

def normalizedNumericType : DataType → Option DataType
  | .int32 | .int64 => some .int64
  | .uint32 | .uint64 => some .uint64
  | .float32 | .float64 => some .float64
  | _ => none

def commonNumericType (left right : DataType) : Option DataType :=
  if left = .null ∧ right.isNumeric then right.normalizedNumericType
  else if right = .null ∧ left.isNumeric then left.normalizedNumericType
  else if !left.isNumeric || !right.isNumeric then none
  else match left, right with
    | .float64, _ | _, .float64 | .float32, _ | _, .float32 => some .float64
    | .int64, .int64 | .int64, .int32 | .int32, .int64 | .int32, .int32 => some .int64
    | .uint64, .uint64 | .uint64, .uint32 | .uint32, .uint64 | .uint32, .uint32 => some .uint64
    | _, _ => none

end DataType

-- What the engine and Arrow do with floating-point numbers. Equality is that of the bits, and
-- `totalCompare` the total order by which Arrow compares, sorts and encodes.
class FloatOps (F : Type) where
  decEq : DecidableEq F
  totalCompare : F → F → Ordering
  partialCompare : F → F → Option Ordering
  add : F → F → F
  sub : F → F → F
  mul : F → F → F
  div : F → F → F
  ofInt : Int → F
  -- The nearest `f32`.
  narrow : F → F
  -- The `f32` nearest to an integer.
  narrowOfInt : Int → F
  toText : F → String

instance {F : Type} [FloatOps F] : DecidableEq F := FloatOps.decEq

-- Exact numbers in the place of `f64`: nothing is rounded and every two values compare.
instance : FloatOps ℚ where
  decEq := inferInstance
  totalCompare := Ord.compare
  partialCompare := fun left right => some (Ord.compare left right)
  add := (· + ·)
  sub := (· - ·)
  mul := (· * ·)
  div := (· / ·)
  ofInt := Int.cast
  narrow := id
  narrowOfInt := Int.cast
  toText := toString

-- A slot of an array. A value of a type without a name is known by its order-preserving row
-- encoding only.
inductive Value (F : Type) where
  | null
  | boolean (value : Bool)
  | int32 (value : I32)
  | int64 (value : I64)
  | uint32 (value : U32)
  | uint64 (value : U64)
  | float32 (value : F)
  | float64 (value : F)
  | utf8 (value : String)
  | other (encoded : List UInt8)
deriving DecidableEq

inductive ScalarValue (F : Type) where
  | null
  | boolean (value : Bool)
  | int64 (value : I64)
  | uint64 (value : U64)
  | float64 (value : F)
  | utf8 (value : String)
deriving DecidableEq

namespace Value

variable {F : Type}

def hasType : DataType → Value F → Bool
  | _, .null => true
  | .boolean, .boolean _ => true
  | .int32, .int32 _ => true
  | .int64, .int64 _ => true
  | .uint32, .uint32 _ => true
  | .uint64, .uint64 _ => true
  | .float32, .float32 _ => true
  | .float64, .float64 _ => true
  | .utf8, .utf8 _ => true
  | .other _, .other _ => true
  | _, _ => false

def isNull : Value F → Bool
  | .null => true
  | _ => false

def ofBool : Option Bool → Value F
  | none => .null
  | some value => .boolean value

def toBool : Value F → Option Bool
  | .boolean value => some value
  | _ => none

@[simp] theorem hasType_null (dataType : DataType) : (null : Value F).hasType dataType = true := by
  cases dataType <;> rfl

@[simp] theorem hasType_ofBool (value : Option Bool) :
    (ofBool value : Value F).hasType .boolean = true := by
  cases value <;> rfl

-- The order of Arrow's kernels and of its row encoding on the values of one type, nulls first.
def compare [FloatOps F] : Value F → Value F → Ordering
  | .null, .null => .eq
  | .null, _ => .lt
  | _, .null => .gt
  | .boolean left, .boolean right => Ord.compare left right
  | .int32 left, .int32 right => Ord.compare left.value right.value
  | .int64 left, .int64 right => Ord.compare left.value right.value
  | .uint32 left, .uint32 right => Ord.compare left right
  | .uint64 left, .uint64 right => Ord.compare left right
  | .float32 left, .float32 right => FloatOps.totalCompare left right
  | .float64 left, .float64 right => FloatOps.totalCompare left right
  | .utf8 left, .utf8 right => Ord.compare left right
  | .other left, .other right => Ord.compare left right
  | _, _ => .eq

end Value

namespace ScalarValue

variable {F : Type}

def dataType : ScalarValue F → DataType
  | .null => .null
  | .boolean _ => .boolean
  | .int64 _ => .int64
  | .uint64 _ => .uint64
  | .float64 _ => .float64
  | .utf8 _ => .utf8

def toValue : ScalarValue F → Value F
  | .null => .null
  | .boolean value => .boolean value
  | .int64 value => .int64 value
  | .uint64 value => .uint64 value
  | .float64 value => .float64 value
  | .utf8 value => .utf8 value

theorem hasType_toValue (scalar : ScalarValue F) : scalar.toValue.hasType scalar.dataType = true := by
  cases scalar <;> rfl

def toText [FloatOps F] : ScalarValue F → String
  | .null => "NULL"
  | .boolean value => s!"{value}"
  | .int64 value => s!"{value.value}"
  | .uint64 value => s!"{value.val}"
  | .float64 value => FloatOps.toText value
  | .utf8 value => s!"'{value}'"

-- The `Debug` form, as error messages show it.
def toDebug [FloatOps F] : ScalarValue F → String
  | .null => "Null"
  | .boolean value => s!"Boolean({value})"
  | .int64 value => s!"Int64({value.value})"
  | .uint64 value => s!"UInt64({value.val})"
  | .float64 value => s!"Float64({FloatOps.toText value})"
  | .utf8 value => s!"Utf8({value.quote})"

def partialCompare [FloatOps F] : ScalarValue F → ScalarValue F → Option Ordering
  | .null, .null => some .eq
  | .null, _ => some .lt
  | _, .null => some .gt
  | .boolean left, .boolean right => some (Ord.compare left right)
  | .int64 left, .int64 right => some (Ord.compare left.value right.value)
  | .uint64 left, .uint64 right => some (Ord.compare left right)
  | .float64 left, .float64 right => FloatOps.partialCompare left right
  | .utf8 left, .utf8 right => some (Ord.compare left right)
  | _, _ => none

end ScalarValue

@[ext]
structure ArrayRef (F : Type) where
  dataType : DataType
  values : List (Value F)
  typed : ∀ value ∈ values, value.hasType dataType = true

namespace ArrayRef

variable {F : Type}

def length (array : ArrayRef F) : Nat := array.values.length

def ofValues (dataType : DataType) (values : List (Value F)) : Option (ArrayRef F) :=
  if typed : ∀ value ∈ values, value.hasType dataType = true then some ⟨dataType, values, typed⟩
  else none

theorem ofValues_eq_some {dataType : DataType} {values : List (Value F)} {array : ArrayRef F} :
    ofValues dataType values = some array ↔ array.dataType = dataType ∧ array.values = values := by
  unfold ofValues
  split
  next typed =>
    cases array
    simp [eq_comm]
  next untyped =>
    simp only [reduceCtorEq, false_iff, not_and]
    rintro rfl rfl
    exact untyped array.typed

-- `BooleanArray::from`
def booleans (values : List (Option Bool)) : ArrayRef F :=
  { dataType := .boolean
    values := values.map .ofBool
    typed := by simp }

-- `scalar_array`
def scalarArray (scalar : ScalarValue F) (length : Nat) : ArrayRef F :=
  { dataType := scalar.dataType
    values := List.replicate length scalar.toValue
    typed := by
      intro value member
      rw [List.eq_of_mem_replicate member]
      exact scalar.hasType_toValue }

end ArrayRef

section

variable {F : Type}

-- `value_at`, given the type of the array and its slot.
def valueAt (dataType : DataType) : Value F → Except SparkXError (ScalarValue F)
  | .null => .ok .null
  | .boolean value => .ok (.boolean value)
  | .int32 value => .ok (.int64 value.widen)
  | .int64 value => .ok (.int64 value)
  | .uint32 value => .ok (.uint64 (value.castLE (by decide)))
  | .uint64 value => .ok (.uint64 value)
  | .float32 value => .ok (.float64 value)
  | .float64 value => .ok (.float64 value)
  | .utf8 value => .ok (.utf8 value)
  | .other _ => .error (.unsupported s!"scalar extraction for {dataType.toText}")

def Value.scalar : Value F → ScalarValue F
  | .boolean value => .boolean value
  | .int32 value => .int64 value.widen
  | .int64 value => .int64 value
  | .uint32 value => .uint64 (value.castLE (by decide))
  | .uint64 value => .uint64 value
  | .float32 value => .float64 value
  | .float64 value => .float64 value
  | .utf8 value => .utf8 value
  | .null | .other _ => .null

theorem Value.scalar_of_valueAt {dataType : DataType} {value : Value F} {scalar : ScalarValue F}
    (read : valueAt dataType value = .ok scalar) : scalar = value.scalar := by
  cases value with
  | other => cases read
  | _ => exact (Except.ok.inj read).symm

variable [FloatOps F]

-- A slot of a `Float32` column holds an `f32`.
def Value.Stored : Value F → Prop
  | .float32 value => FloatOps.narrow value = value
  | _ => True

-- The slot that `scalars_to_array` builds: a scalar of another type becomes null.
def slotOf : DataType → ScalarValue F → Value F
  | .boolean, .boolean value => .boolean value
  | .int32, .int64 value => .int32 value.narrow
  | .int64, .int64 value => .int64 value
  | .uint32, .uint64 value => .uint32 (Fin.ofNat _ value.val)
  | .uint64, .uint64 value => .uint64 value
  | .float32, .float64 value => .float32 (FloatOps.narrow value)
  | .float32, .int64 value => .float32 (FloatOps.narrowOfInt value.value)
  | .float32, .uint64 value => .float32 (FloatOps.narrowOfInt value.val)
  | .float64, .float64 value => .float64 value
  | .float64, .int64 value => .float64 (FloatOps.ofInt value.value)
  | .float64, .uint64 value => .float64 (FloatOps.ofInt value.val)
  | .utf8, .utf8 value => .utf8 value
  | _, _ => .null

theorem hasType_slotOf (dataType : DataType) (scalar : ScalarValue F) :
    (slotOf dataType scalar).hasType dataType = true := by
  cases dataType <;> cases scalar <;> rfl

def scalarsToArray (scalars : List (ScalarValue F)) (dataType : DataType) :
    Except SparkXError (ArrayRef F) :=
  match dataType with
  | .null | .other _ => .error (.unsupported s!"building output arrays for {dataType.toText}")
  | _ => .ok
    { dataType
      values := scalars.map (slotOf dataType)
      typed := by
        intro value member
        obtain ⟨scalar, _, rfl⟩ := List.mem_map.mp member
        exact hasType_slotOf dataType scalar }

end

end SparkX
