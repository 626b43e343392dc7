import Mathlib.Data.List.TakeWhile
import Mathlib.Data.Nat.Digits.Defs

/-!
# Integers in decimal

An integer is written with a sign if it is negative, and its digits in ASCII.
What a text begins with is read as an integer, and what was written is read
back.
-/

namespace SensorManager.Decimal

def isDigit (byte : UInt8) : Bool :=
  48 ≤ byte.toNat && byte.toNat ≤ 57

def isSpace (byte : UInt8) : Bool :=
  byte.toNat = 32 || 9 ≤ byte.toNat && byte.toNat ≤ 13

/-- The digits of a natural number. -/
def digits (value : Nat) : List UInt8 :=
  (Nat.toDigits 10 value).map fun digit => UInt8.ofNat digit.toNat

def print (value : Int) : List UInt8 :=
  (if value < 0 then [45] else []) ++ digits value.natAbs

/-- The natural number that the digits make up. -/
def value (digits : List UInt8) : Nat :=
  digits.foldl (fun sofar digit => 10 * sofar + (digit.toNat - 48)) 0

/-- The sign at the front, and what follows it. -/
def takeSign : List UInt8 → Bool × List UInt8
  | [] => (false, [])
  | first :: text =>
      if first = 45 then (true, text)
      else if first = 43 then (false, text)
      else (false, first :: text)

/-- The integer at the front of the text, behind any spaces; none if there is no
digit. -/
def read (text : List UInt8) : Option Int :=
  let signed := takeSign (text.dropWhile isSpace)
  let found := signed.2.takeWhile isDigit
  if found.isEmpty then none
  else some (if signed.1 then -(value found : Int) else value found)

section Digits

variable (number : Nat)

theorem toNat_of_isDigit {digit : Char} (isDigit : digit.isDigit = true) :
    (UInt8.ofNat digit.toNat).toNat = digit.toNat ∧ 48 ≤ digit.toNat ∧ digit.toNat ≤ 57 := by
  rw [Char.isDigit, Bool.and_eq_true, decide_eq_true_eq, decide_eq_true_eq] at isDigit
  have low : 48 ≤ digit.toNat := isDigit.1
  have high : digit.toNat ≤ 57 := isDigit.2
  rw [UInt8.toNat_ofNat']
  omega

theorem isDigit_of_mem_digits {byte : UInt8} (member : byte ∈ digits number) :
    isDigit byte = true := by
  obtain ⟨digit, inDigits, rfl⟩ := List.mem_map.mp member
  have bounds := toNat_of_isDigit (Nat.isDigit_of_mem_toDigits (by decide) (by decide) inDigits)
  simp only [isDigit, Bool.and_eq_true, decide_eq_true_eq]
  omega

theorem digits_ne_nil : digits number ≠ [] := by
  simp [digits, Nat.toDigits_ne_nil]

theorem value_letters {letters : List Char} (allDigits : ∀ letter ∈ letters, letter.isDigit = true)
    (sofar : Nat) :
    (letters.map fun digit => UInt8.ofNat digit.toNat).foldl
        (fun sofar digit => 10 * sofar + (digit.toNat - 48)) sofar =
      Nat.ofDigitChars 10 letters sofar := by
  induction letters generalizing sofar with
  | nil => rfl
  | cons letter letters ih =>
      have same := (toNat_of_isDigit (allDigits letter List.mem_cons_self)).1
      rw [List.map_cons, List.foldl_cons, same, Nat.ofDigitChars_cons]
      exact ih (fun later member => allDigits later (List.mem_cons_of_mem _ member)) _

theorem value_digits : value (digits number) = number := by
  have allDigits : ∀ letter ∈ Nat.toDigits 10 number, letter.isDigit = true :=
    fun letter => Nat.isDigit_of_mem_toDigits (by decide) (by decide)
  rw [value, digits, value_letters allDigits, Nat.ofDigitChars_ten_toDigits]

end Digits

/-- What was written is a sign and digits. -/
theorem mem_print {byte : UInt8} {number : Int} (member : byte ∈ print number) :
    byte = 45 ∨ isDigit byte = true := by
  rcases List.mem_append.mp member with sign | digit
  · split at sign
    · exact .inl (List.mem_singleton.mp sign)
    · cases sign
  · exact .inr (isDigit_of_mem_digits _ digit)

theorem notMem_print {byte : UInt8} (notSign : byte ≠ 45) (notDigit : isDigit byte = false)
    (number : Int) : byte ∉ print number := by
  intro member
  rcases mem_print member with sign | digit
  · exact notSign sign
  · exact Bool.false_ne_true (notDigit.symm.trans digit)

theorem takeWhile_digits (number : Nat) :
    (digits number).takeWhile isDigit = digits number :=
  List.takeWhile_eq_self_iff.mpr fun _ => isDigit_of_mem_digits number

/-- A digit begins the number: no space is skipped and no sign is taken. -/
theorem takeSign_digits (number : Nat) :
    takeSign ((digits number).dropWhile isSpace) = (false, digits number) := by
  obtain ⟨first, later, split⟩ := List.exists_cons_of_ne_nil (digits_ne_nil number)
  have digit : isDigit first = true :=
    isDigit_of_mem_digits number (split ▸ List.mem_cons_self)
  simp only [isDigit, Bool.and_eq_true, decide_eq_true_eq] at digit
  have noSpace : isSpace first = false := by
    simp only [isSpace, Bool.or_eq_false_iff, Bool.and_eq_false_iff, decide_eq_false_iff_not]
    omega
  have notMinus : first ≠ 45 := by
    rintro rfl
    exact absurd digit.1 (by decide)
  have notPlus : first ≠ 43 := by
    rintro rfl
    exact absurd digit.1 (by decide)
  rw [split, List.dropWhile_cons_of_neg (by simp [noSpace]), takeSign, if_neg notMinus,
    if_neg notPlus]

/-- What was written is read back. -/
theorem read_print (number : Int) : read (print number) = some number := by
  have some_digits : (digits number.natAbs).isEmpty = false :=
    List.isEmpty_eq_false_iff.mpr (digits_ne_nil _)
  by_cases negative : number < 0
  · have signed : takeSign ((print number).dropWhile isSpace) = (true, digits number.natAbs) := by
      rw [print, if_pos negative, List.singleton_append,
        List.dropWhile_cons_of_neg (by decide), takeSign, if_pos rfl]
    simp only [read, signed, takeWhile_digits, some_digits, value_digits]
    have opposite := Int.ofNat_natAbs_of_nonpos (Int.le_of_lt negative)
    simp [opposite]
  · have signed : takeSign ((print number).dropWhile isSpace) = (false, digits number.natAbs) := by
      rw [print, if_neg negative, List.nil_append, takeSign_digits]
    simp only [read, signed, takeWhile_digits, some_digits, value_digits]
    have same := Int.natAbs_of_nonneg (Int.not_lt.mp negative)
    simp [same]

end SensorManager.Decimal
