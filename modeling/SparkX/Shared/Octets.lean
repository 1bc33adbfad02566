import Mathlib

set_option autoImplicit false

namespace Octets

def ofChars (chars : List Char) : List UInt8 := chars.flatMap String.utf8EncodeChar

def ofText (text : String) : List UInt8 := ofChars text.toList

-- `(n as u32).to_le_bytes()`: the upper bits of a longer number are lost.
def ofLength (n : Nat) : List UInt8 :=
  [UInt8.ofNat n, UInt8.ofNat (n / 2 ^ 8), UInt8.ofNat (n / 2 ^ 16), UInt8.ofNat (n / 2 ^ 24)]

-- `u32::from_le_bytes`
def toLength (octets : List UInt8) : Nat :=
  octets.foldr (fun octet rest => octet.toNat + 2 ^ 8 * rest) 0

def crc32Bit (remainder : BitVec 32) : BitVec 32 :=
  if remainder.getLsbD 0 then (remainder >>> 1) ^^^ 0xedb88320#32 else remainder >>> 1

def crc32Octet (remainder : BitVec 32) (octet : UInt8) : BitVec 32 :=
  crc32Bit^[8] (remainder ^^^ BitVec.ofNat 32 octet.toNat)

def crc32 (octets : List UInt8) : Nat :=
  (~~~(octets.foldl crc32Octet 0xffffffff#32)).toNat

-- The check value of the CRC-32 catalogue.
example : crc32 (ofText "123456789") = 0xcbf43926 := by decide +kernel

theorem crc32Bit_injective : Function.Injective crc32Bit := by
  intro first second same
  have top (remainder : BitVec 32) : (crc32Bit remainder).getLsbD 31 = remainder.getLsbD 0 := by
    unfold crc32Bit
    split
    next odd => simp [odd]
    next even => simp_all
  have low : first.getLsbD 0 = second.getLsbD 0 := by rw [← top, ← top, same]
  have high : first >>> 1 = second >>> 1 := by
    unfold crc32Bit at same
    rw [low] at same
    split at same
    next => exact (BitVec.xor_left_inj _).mp same
    next => exact same
  apply BitVec.eq_of_getLsbD_eq
  intro index _
  cases index with
  | zero => exact low
  | succ index =>
    have shifted := congrArg (·.getLsbD index) high
    simpa [BitVec.getLsbD_ushiftRight, Nat.add_comm] using shifted

theorem crc32Octet_left_injective (octet : UInt8) : Function.Injective (crc32Octet · octet) := by
  intro first second same
  exact (BitVec.xor_left_inj _).mp (crc32Bit_injective.iterate 8 same)

theorem crc32Octet_right_injective (remainder : BitVec 32) : Function.Injective (crc32Octet remainder) := by
  intro first second same
  have equal := (BitVec.xor_right_inj _).mp (crc32Bit_injective.iterate 8 same)
  have values := congrArg BitVec.toNat equal
  have bounds := And.intro first.toNat_lt second.toNat_lt
  simp only [BitVec.toNat_ofNat] at values
  apply UInt8.toNat_inj.mp
  omega

theorem crc32_ne {first second : UInt8} (different : first ≠ second) (before after : List UInt8) :
    crc32 (before ++ first :: after) ≠ crc32 (before ++ second :: after) := by
  have keeps (rest : List UInt8) : Function.Injective (rest.foldl crc32Octet) := by
    induction rest with
    | nil => exact fun _ _ same => same
    | cons octet rest ih => exact fun _ _ same => crc32Octet_left_injective octet (ih same)
  intro same
  simp only [crc32, BitVec.toNat_inj, BitVec.not_inj, List.foldl_append, List.foldl_cons] at same
  exact different (crc32Octet_right_injective _ (keeps after same))

@[simp] theorem length_ofLength (n : Nat) : (ofLength n).length = 4 := rfl

theorem toLength_ofLength (n : Nat) : toLength (ofLength n) = n % 2 ^ 32 := by
  simp only [toLength, ofLength, List.foldr_cons, List.foldr_nil, UInt8.toNat_ofNat']
  omega

end Octets
