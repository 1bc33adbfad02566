import Mathlib

set_option autoImplicit false

namespace Text

def isWhitespace (c : Char) : Bool :=
  let code := c.toNat
  (9 ≤ code && code ≤ 13) || code == 0x20 || code == 0x85 || code == 0xa0 || code == 0x1680 ||
    (0x2000 ≤ code && code ≤ 0x200a) || code == 0x2028 || code == 0x2029 || code == 0x202f ||
    code == 0x205f || code == 0x3000

-- `text.trim().is_empty()`
def isBlank (text : String) : Bool := text.toList.all isWhitespace

def hasWhitespace (text : String) : Bool := text.toList.any isWhitespace

def byteLength (text : String) : Nat := text.utf8ByteSize

def stripPrefix (start text : String) : Option String :=
  if start.toList.isPrefixOf text.toList then
    some (String.ofList (text.toList.drop start.toList.length))
  else none

def padded (width n : Nat) : String := String.leftpad width '0' n.repr

def hexPadded (width n : Nat) : String :=
  String.leftpad width '0' (String.ofList (Nat.toDigits 16 n))

theorem toList_padded (width n : Nat) : (padded width n).toList =
    List.replicate (width - (Nat.toDigits 10 n).length) '0' ++ Nat.toDigits 10 n := by
  rw [padded, String.leftpad, String.toList_ofList, Nat.repr_eq_ofList_toDigits, String.toList_ofList]
  rfl

-- Zeros in front do not change the number that the digits stand for.
theorem padded_injective (width : Nat) : Function.Injective (padded width) := by
  intro first second same
  have value (n : Nat) : Nat.ofDigitChars 10 (padded width n).toList 0 = n := by
    rw [toList_padded, Nat.ofDigitChars_append, Nat.ofDigitChars_replicate_zero, Nat.mul_zero,
      Nat.ofDigitChars_toDigits (by decide) (by decide)]
  rw [← value first, ← value second, same]

def hexDigit (c : Char) : Nat :=
  if c.toNat ≤ '9'.toNat then c.toNat - '0'.toNat else c.toNat - 'a'.toNat + 10

def ofHex (chars : List Char) : Nat := chars.foldl (fun number c => 16 * number + hexDigit c) 0

theorem ofHex_toDigits (n : Nat) : ofHex (Nat.toDigits 16 n) = n := by
  have digit : ∀ d < 16, hexDigit d.digitChar = d := by decide
  induction n using Nat.strongRecOn with
  | ind n ih =>
    rcases Nat.lt_or_ge n 16 with small | large
    · rw [Nat.toDigits_of_lt_base small]
      simp [ofHex, digit n small]
    · have shorter := ih (n / 16) (by omega)
      unfold ofHex at shorter
      rw [Nat.toDigits_of_base_le (by decide) large, ofHex, List.foldl_append, shorter]
      simp only [List.foldl_cons, List.foldl_nil, digit (n % 16) (Nat.mod_lt _ (by decide))]
      omega

theorem hexPadded_injective (width : Nat) : Function.Injective (hexPadded width) := by
  have value (n : Nat) : ofHex (hexPadded width n).toList = n := by
    have zeros (count : Nat) (rest : List Char) :
        ofHex (List.replicate count '0' ++ rest) = ofHex rest := by
      induction count with
      | zero => rfl
      | succ count ih => exact ih
    have digits : (hexPadded width n).toList =
        List.replicate (width - (Nat.toDigits 16 n).length) '0' ++ Nat.toDigits 16 n := by
      rw [hexPadded, String.leftpad, String.toList_ofList, String.toList_ofList]
      rfl
    rw [digits, zeros, ofHex_toDigits]
  intro first second same
  rw [← value first, ← value second, same]

theorem length_padded {width n digits : Nat} (positive : 0 < digits) (bound : n < 10 ^ digits) :
    (padded width n).toList.length ≤ max width digits := by
  have short := Nat.toDigits_length 10 n digits positive bound
  rw [toList_padded, List.length_append, List.length_replicate]
  omega

theorem byteLength_le (text : String) : byteLength text ≤ 4 * text.toList.length := by
  induction text using String.push_induction with
  | empty => exact Nat.le_refl _
  | push text letter ih =>
    have size := letter.utf8Size_le_four
    simp only [byteLength] at ih
    rw [byteLength, String.utf8ByteSize_push, String.toList_push, List.length_append, List.length_singleton]
    omega

theorem takeWhile_stop {α : Type} {keep : α → Bool} {stop : α} (stopped : keep stop = false)
    (before after : List α) :
    (before ++ stop :: after).takeWhile keep = before.takeWhile keep := by
  induction before with
  | nil => simp [stopped]
  | cons first rest ih => simp only [List.cons_append, List.takeWhile_cons, ih]

theorem toString_text (text : String) : toString text = text := rfl

end Text
