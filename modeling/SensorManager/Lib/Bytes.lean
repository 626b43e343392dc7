import Mathlib.Data.Nat.Bitwise
import Mathlib.Data.Nat.Digits.Defs
import Mathlib.Tactic.Ring
import Mathlib.Tactic.Linarith

/-!
# Fixed-width integers as byte strings

Little-endian reading and writing of naturals, and the two's complement
reading that a signed integer of the same width has.  The big-endian order is
the same reading of the reversed string.
-/

namespace SensorManager.Bytes

/-- The natural whose base 256 digits, least significant first, are `bytes`. -/
def littleEndian (bytes : List UInt8) : Nat :=
  Nat.ofDigits 256 (bytes.map UInt8.toNat)

/-- The `size` least significant base 256 digits of `value`. -/
def toLittleEndian : Nat → Nat → List UInt8
  | 0, _ => []
  | size + 1, value => UInt8.ofNat value :: toLittleEndian size (value / 256)

/-- Two's complement reading of `size` bytes. -/
def signed (size value : Nat) : Int :=
  Int.bmod value (256 ^ size)

/-- The `size` bytes that hold `value`, wrapped to their width. -/
def ofInt (size : Nat) (value : Int) : List UInt8 :=
  toLittleEndian size (value % (256 ^ size : Nat)).toNat

/-- The signed integer held by all of `bytes`. -/
def toInt (bytes : List UInt8) : Int :=
  signed bytes.length (littleEndian bytes)

@[simp] theorem length_toLittleEndian (size value : Nat) :
    (toLittleEndian size value).length = size := by
  induction size generalizing value with
  | zero => rfl
  | succ size ih => simp [toLittleEndian, ih]

@[simp] theorem length_ofInt (size : Nat) (value : Int) :
    (ofInt size value).length = size :=
  length_toLittleEndian size _

theorem littleEndian_cons (byte : UInt8) (bytes : List UInt8) :
    littleEndian (byte :: bytes) = byte.toNat + 256 * littleEndian bytes := by
  simp [littleEndian, Nat.ofDigits_cons]

theorem littleEndian_lt (bytes : List UInt8) :
    littleEndian bytes < 256 ^ bytes.length := by
  have digits : ∀ digit ∈ bytes.map UInt8.toNat, digit < 256 := by
    intro digit member
    obtain ⟨byte, _, rfl⟩ := List.mem_map.mp member
    exact byte.toNat_lt
  simpa [littleEndian] using
    Nat.ofDigits_lt_base_pow_length (by decide : 1 < 256) digits

theorem littleEndian_toLittleEndian {size value : Nat}
    (fits : value < 256 ^ size) :
    littleEndian (toLittleEndian size value) = value := by
  induction size generalizing value with
  | zero =>
      have isZero : value = 0 := by simpa using fits
      simp [toLittleEndian, littleEndian, isZero]
  | succ size ih =>
      have quotientFits : value / 256 < 256 ^ size := by
        rw [pow_succ] at fits
        exact Nat.div_lt_of_lt_mul (by linarith)
      rw [toLittleEndian, littleEndian_cons, ih quotientFits]
      simp only [UInt8.toNat_ofNat']
      omega

theorem toLittleEndian_littleEndian (bytes : List UInt8) :
    toLittleEndian bytes.length (littleEndian bytes) = bytes := by
  induction bytes with
  | nil => rfl
  | cons byte bytes ih =>
      have below : byte.toNat < 256 := byte.toNat_lt
      have quotient :
          (byte.toNat + 256 * littleEndian bytes) / 256 =
            littleEndian bytes := by omega
      rw [List.length_cons, toLittleEndian, littleEndian_cons, quotient, ih]
      congr 1
      apply UInt8.toNat_inj.mp
      simp only [UInt8.toNat_ofNat']
      omega

/-- Digits beyond the width are not written. -/
theorem toLittleEndian_mod (size value : Nat) :
    toLittleEndian size (value % 256 ^ size) = toLittleEndian size value := by
  induction size generalizing value with
  | zero => rfl
  | succ size ih =>
      have quotient : value % 256 ^ (size + 1) / 256 = value / 256 % 256 ^ size := by
        rw [pow_succ', Nat.mod_mul_right_div_self]
      have digit : UInt8.ofNat (value % 256 ^ (size + 1)) = UInt8.ofNat value := by
        apply UInt8.toNat_inj.mp
        simp only [UInt8.toNat_ofNat']
        exact Nat.mod_mod_of_dvd value (dvd_pow_self 256 (by omega))
      rw [toLittleEndian, toLittleEndian, digit, quotient, ih]

theorem ofInt_natCast (size value : Nat) : ofInt size value = toLittleEndian size value := by
  unfold ofInt
  rw [← Int.natCast_mod, Int.toNat_natCast, toLittleEndian_mod]

/-- A value that the width can hold is read back unchanged. -/
theorem toInt_ofInt {size : Nat} {value : Int}
    (lower : -(256 ^ size : Nat) ≤ value * 2)
    (upper : value * 2 < (256 ^ size : Nat)) :
    toInt (ofInt size value) = value := by
  have positive : (0 : Int) < (256 ^ size : Nat) := by positivity
  have nonneg := Int.emod_nonneg value (ne_of_gt positive)
  have below := Int.emod_lt_of_pos value positive
  have fits : (value % (256 ^ size : Nat)).toNat < 256 ^ size := by omega
  rw [toInt, length_ofInt, ofInt, littleEndian_toLittleEndian fits, signed,
    Int.toNat_of_nonneg nonneg, Int.emod_bmod]
  exact Int.bmod_eq_of_le_mul_two lower upper

/-- The range of a signed integer. -/
theorem toInt_bounds (bytes : List UInt8) :
    -(256 ^ bytes.length : Nat) ≤ toInt bytes * 2 ∧
      toInt bytes * 2 < (256 ^ bytes.length : Nat) := by
  have positive : 0 < 256 ^ bytes.length := by positivity
  have lower := @Int.le_bmod (littleEndian bytes) (256 ^ bytes.length) positive
  have upper := @Int.bmod_lt (littleEndian bytes) (256 ^ bytes.length) positive
  rw [toInt, signed]
  omega

/-- Below half of its range a signed integer and the natural it stands for
agree. -/
theorem signed_of_lt {size value : Nat} (small : value * 2 < 256 ^ size) :
    signed size value = value :=
  Int.bmod_eq_of_le_mul_two (by omega) (by exact_mod_cast small)

/-- A byte below 128 is read as itself, and nothing else is. -/
theorem toInt_singleton {byte : UInt8} {value : Nat} (small : value < 128) :
    toInt [byte] = value ↔ byte = UInt8.ofNat value := by
  have below : byte.toNat < 256 := byte.toNat_lt
  have reading : toInt [byte] = Int.bmod byte.toNat 256 := by
    simp [toInt, signed, littleEndian]
  rw [reading, ← UInt8.toNat_inj, UInt8.toNat_ofNat', Int.bmod_def]
  omega

/-- A byte that is widened, shifted to its place and masked is its digit there. -/
theorem toNat_masked : ∀ (place : Fin 4) (byte : BitVec 8),
    (byte.signExtend 32 <<< (8 * place.val) &&& 0xff#32 <<< (8 * place.val)).toNat =
      byte.toNat * 2 ^ (8 * place.val) := by
  decide +kernel

/-- Bits above those of a number are added to it. -/
theorem or_shifted {low width : Nat} (small : low < 2 ^ width) (high : Nat) :
    low ||| high * 2 ^ width = low + high * 2 ^ width := by
  rw [Nat.or_comm, ← Nat.shiftLeft_eq, ← Nat.shiftLeft_add_eq_or_of_lt small, Nat.add_comm]

/-- What an arithmetic shift moves into the last byte is a digit of the number. -/
theorem lastByte_shifted {place : Nat} (inside : place < 4) (bits : BitVec 32) :
    UInt8.ofBitVec ((bits.sshiftRight (8 * place)).signExtend 8) =
      UInt8.ofNat (bits.toNat / 256 ^ place) := by
  have same : (bits.sshiftRight (8 * place)).setWidth 8 = (bits >>> (8 * place)).setWidth 8 := by
    ext index below
    have moved : 8 * place + index < 32 := by omega
    simp [BitVec.getLsbD_sshiftRight, moved]
    omega
  apply UInt8.toNat_inj.mp
  rw [BitVec.signExtend_eq_setWidth_of_le _ (by norm_num), same]
  simp [BitVec.toNat_setWidth, Nat.shiftRight_eq_div_pow, pow_mul]

end SensorManager.Bytes
